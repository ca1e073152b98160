import DialogueScript.Json.Printer
import DialogueScript.Json.Reader
import Mathlib.Tactic.Common

/-!
# JSON texts read back

What the printer writes of a value, the reader takes off the front of a text, in either layout, and
leaves what follows (`Reads`). Only a number must be kept apart from what follows (`Apart`), as it
has no closing mark of its own; inside a container it always is.

Strings are read back character by character (`readString_escapedChar`), counts digit by digit.
Containers go back to their items: `allItems_of_reads` for the items of an array, and
`allMembers_of_takes` for the members of an object, each of which changes a state. A value without
null, fractions and negative numbers is `Plain`, and is read back as itself (`reads_value`).
-/

namespace DialogueScript.Json

open Text Reader

/-! ## Strings -/

/-- A hexadecimal digit has the value that it was written for. -/
lemma hexValue?_hexDigit (n : ℕ) : hexValue? (hexDigit n) = some (n % 16) := by
  have hall : ∀ d < 16, hexValue? (Nat.digitChar d) = some d := by decide
  exact hall (n % 16) (Nat.mod_lt n (by decide))

/-- A string goes on behind an escape. -/
lemma readString_of_escape {c : Char} {s t : Text} (h : readEscape s = .ok (c, t)) :
    readString ('\\' :: s) = (readString t).map fun (u, rest) => (c :: u, rest) := by
  rw [readString]
  split
  · rename_i heq
    rw [h] at heq
    cases heq
  · rename_i heq
    rw [h] at heq
    cases heq
    rfl

/-- An escape of one letter is undone. -/
lemma readString_simple {letter c : Char} (h : simpleEscape? letter = some c) (hu : letter ≠ 'u')
    (t : Text) :
    readString ('\\' :: letter :: t) = (readString t).map fun (s, rest) => (c :: s, rest) := by
  have hescape : readEscape (letter :: t) = .ok (c, t) := by
    unfold readEscape
    split
    · rename_i hnil
      cases hnil
    · rename_i heq
      cases heq
      exact absurd rfl hu
    · rename_i heq
      cases heq
      rw [h]
  exact readString_of_escape hescape

/-- A control character is undone from its code. -/
lemma readString_control {c : Char} (h : c.toNat < 0x20) (t : Text) :
    readString ('\\' :: 'u' :: '0' :: '0' :: hexDigit (c.toNat / 16) :: hexDigit c.toNat :: t) =
      (readString t).map fun (s, rest) => (c :: s, rest) := by
  have hcode : ((0 * 16 + 0) * 16 + c.toNat / 16 % 16) * 16 + c.toNat % 16 = c.toNat := by omega
  have hhex : readHex ('0' :: '0' :: hexDigit (c.toNat / 16) :: hexDigit c.toNat :: t) =
      .ok (c.toNat, t) := by
    have hzero : hexValue? '0' = some 0 := rfl
    simp only [readHex, hzero, hexValue?_hexDigit, hcode]
  have hescape : readEscape
      ('u' :: '0' :: '0' :: hexDigit (c.toNat / 16) :: hexDigit c.toNat :: t) = .ok (c, t) := by
    have hlow : isLowSurrogate c.toNat = false := by simp [isLowSurrogate]; omega
    have hhigh : isHighSurrogate c.toNat = false := by simp [isHighSurrogate]; omega
    simp only [readEscape, hhex, hlow, hhigh, Bool.false_eq_true, if_false, Char.ofNat_toNat]
  exact readString_of_escape hescape

/-- A character comes back from what a string holds of it. -/
lemma readString_escapedChar (c : Char) (t : Text) :
    readString (escapedChar c ++ t) = (readString t).map fun (s, rest) => (c :: s, rest) := by
  by_cases hsimple : c ∈ ['"', '\\', '\x08', '\x0c', '\n', '\r', '\t']
  · simp only [List.mem_cons, List.not_mem_nil, or_false] at hsimple
    rcases hsimple with rfl | rfl | rfl | rfl | rfl | rfl | rfl <;>
      exact readString_simple rfl (by decide) t
  · simp only [List.mem_cons, List.not_mem_nil, or_false, not_or] at hsimple
    obtain ⟨hquote, hslash, hback, hform, hfeed, hreturn, htab⟩ := hsimple
    rw [escapedChar, if_neg hquote, if_neg hslash, if_neg hback, if_neg hform, if_neg hfeed,
      if_neg hreturn, if_neg htab]
    split
    · rename_i hcontrol
      exact readString_control hcontrol t
    · rename_i hcontrol
      show readString (c :: t) = _
      rw [readString, if_neg hcontrol]
      · exact hquote
      · exact hslash

/-- A string comes back from its quoted form. -/
lemma readString_flatMap (s rest : Text) :
    readString (s.flatMap escapedChar ++ '"' :: rest) = .ok (s, rest) := by
  induction s with
  | nil => rw [List.flatMap_nil, List.nil_append, readString]
  | cons c s ih =>
    rw [List.flatMap_cons, List.append_assoc, readString_escapedChar, ih]
    rfl

/-! ## Counts -/

/-- The text does not go on with a numeral. -/
def Apart (t : Text) : Prop :=
  ∀ c, t.head? = some c → c.isDigit = false ∧ c ≠ '.' ∧ c ≠ 'e' ∧ c ≠ 'E'

lemma apart_nil : Apart [] := fun c h => by cases h

lemma apart_cons {c : Char} {t : Text} (h : c.isDigit = false ∧ c ≠ '.' ∧ c ≠ 'e' ∧ c ≠ 'E') :
    Apart (c :: t) := by
  intro d hd
  cases hd
  exact h

lemma isDigit_of_mem_ofNat {n : ℕ} {c : Char} (h : c ∈ Text.ofNat n) : c.isDigit = true :=
  Nat.isDigit_of_mem_toDigits (by decide) (by decide) h

/-- A number above zero does not begin with a zero. -/
lemma head?_ofNat_ne_zero {n : ℕ} (h : 0 < n) : (Text.ofNat n).head? ≠ some '0' := by
  induction n using Nat.strongRecOn with
  | _ n ih =>
    by_cases hsmall : n < 10
    · have hall : ∀ d < 10, 0 < d → some (Nat.digitChar d) ≠ some '0' := by decide
      rw [Text.ofNat, Nat.toDigits_of_lt_base hsmall]
      exact hall n hsmall h
    · -- what precedes the last digit is a number above zero
      have hfront : Nat.toDigits 10 n = Nat.toDigits 10 (n / 10) ++ [(n % 10).digitChar] :=
        Nat.toDigits_of_base_le (by decide) (by omega)
      have hhead := ih (n / 10) (by omega) (by omega)
      have hne : Nat.toDigits 10 (n / 10) ≠ [] := Nat.toDigits_ne_nil
      obtain ⟨c, ds, hds⟩ := List.exists_cons_of_ne_nil hne
      rw [Text.ofNat, hds] at hhead
      rw [Text.ofNat, hfront, hds]
      exact hhead

/-- A row of digits is read up to the first character that is none. -/
lemma readDigits_append {ds rest : Text} (atEnd : Fault) (hne : ds ≠ [])
    (hdigits : ∀ c ∈ ds, c.isDigit = true) (hrest : ∀ c, rest.head? = some c → c.isDigit = false) :
    readDigits atEnd (ds ++ rest) = .ok (ds, rest) := by
  have htake : (ds ++ rest).takeWhile Char.isDigit = ds := by
    rw [List.takeWhile_append_of_pos hdigits]
    cases rest with
    | nil => rw [List.takeWhile_nil, List.append_nil]
    | cons c rest => simp [hrest c rfl]
  have hdrop : (ds ++ rest).dropWhile Char.isDigit = rest := by
    rw [List.dropWhile_append_of_pos hdigits]
    cases rest with
    | nil => rfl
    | cons c rest => simp [hrest c rfl]
  obtain ⟨c, ds', rfl⟩ := List.exists_cons_of_ne_nil hne
  have hc : c.isDigit = true := hdigits c List.mem_cons_self
  rw [List.cons_append] at htake hdrop ⊢
  simp only [readDigits, hc, if_true, htake, hdrop]

/-- A significand that fits takes in all digits. -/
lemma gather_eq {ds : Text} {significand : ℕ}
    (h : Nat.ofDigitChars 10 ds significand < Nat.pow 2 64) :
    gather significand ds = (Nat.ofDigitChars 10 ds significand, 0) := by
  induction ds generalizing significand with
  | nil => rfl
  | cons c ds ih =>
    have hnext : significand * 10 + Text.digitValue c =
        10 * significand + (c.toNat - '0'.toNat) := by
      rw [Text.digitValue, Nat.mul_comm]
    rw [Nat.ofDigitChars_cons, ← hnext] at h ⊢
    -- digits only make a number larger
    have hle : significand * 10 + Text.digitValue c ≤
        Nat.ofDigitChars 10 ds (significand * 10 + Text.digitValue c) := by
      rw [Nat.ofDigitChars_eq_ofDigitChars_zero]
      have hpos : 1 ≤ 10 ^ ds.length := Nat.one_le_pow _ _ (by decide)
      have hmul := Nat.mul_le_mul_right (significand * 10 + Text.digitValue c) hpos
      omega
    have hfits : significand * 10 + Text.digitValue c < Nat.pow 2 64 := Nat.lt_of_le_of_lt hle h
    rw [gather, if_pos hfits]
    exact ih h

/-- The decimal form of a number is read as a numeral without fraction and exponent. -/
lemma numeral_read_ofNat (atEnd : Fault) (n : ℕ) {rest : Text} (hrest : Apart rest) :
    Numeral.read atEnd (Text.ofNat n ++ rest) = .ok (⟨Text.ofNat n, none, none⟩, rest) := by
  have hdigits : readDigits atEnd (Text.ofNat n ++ rest) = .ok (Text.ofNat n, rest) :=
    readDigits_append atEnd Nat.toDigits_ne_nil (fun c => isDigit_of_mem_ofNat)
      fun c hc => (hrest c hc).1
  have hzero : ((Text.ofNat n).length != 1 && (Text.ofNat n).head? == some '0') = false := by
    by_cases hn : 0 < n
    · simp [head?_ofNat_ne_zero hn]
    · have hn : n = 0 := by omega
      rw [hn]
      rfl
  have hexponent : readExponent atEnd rest = .ok (none, rest) := by
    unfold readExponent
    split
    · rename_i t
      exact absurd rfl (hrest 'e' rfl).2.2.1
    · rename_i t
      exact absurd rfl (hrest 'E' rfl).2.2.2
    · rfl
  -- what follows is neither a fraction nor an exponent
  unfold Numeral.read
  rw [hdigits]
  simp only [bind, Except.bind, hzero, Bool.false_eq_true, if_false, pure, Except.pure]
  split
  · rename_i t
    exact absurd rfl (hrest '.' rfl).2.1
  · rw [hexponent]

/-- A number that fits 64 bits is the value of its decimal form. -/
lemma value?_ofNat {n : ℕ} (h : n < Nat.pow 2 64) :
    Numeral.value? false ⟨Text.ofNat n, none, none⟩ = some (.int n) := by
  have hvalue : Nat.ofDigitChars 10 (Text.ofNat n) 0 = n := Nat.ofDigitChars_ten_toDigits
  have hgather : gather 0 (Text.ofNat n) = (n, 0) := by
    rw [gather_eq (by rwa [hvalue]), hvalue]
  simp only [Numeral.value?, hgather, integer?, Bool.false_eq_true, if_false]

/-! ## Plain values -/

/-- A value without null, fractions and negative numbers, nested at most `k` times. -/
inductive Plain : ℕ → Json → Prop where
  | boolean (k : ℕ) (b : Bool) : Plain k (.boolean b)
  | count (k : ℕ) {n : ℕ} (h : n < Nat.pow 2 64) : Plain k (.number (.int (.ofNat n)))
  | string (k : ℕ) (t : Text) : Plain k (.string t)
  | array {k : ℕ} {vs : List Json} (h : ∀ v ∈ vs, Plain k v) : Plain (k + 1) (.array vs)
  | object {k : ℕ} {ms : List (Text × Json)} (h : ∀ m ∈ ms, Plain k m.2) :
    Plain (k + 1) (.object ms)

lemma Plain.mono {k k' : ℕ} {v : Json} (h : Plain k v) (hk : k ≤ k') : Plain k' v := by
  induction h generalizing k' with
  | boolean k b => exact .boolean k' b
  | count k hn => exact .count k' hn
  | string k t => exact .string k' t
  | array h ih =>
    obtain ⟨j, rfl⟩ := Nat.exists_eq_add_of_le' (Nat.le_of_add_left_le hk)
    exact .array fun v hv => ih v hv (by omega)
  | object h ih =>
    obtain ⟨j, rfl⟩ := Nat.exists_eq_add_of_le' (Nat.le_of_add_left_le hk)
    exact .object fun m hm => ih m hm (by omega)

/-- The text begins with what may be the front of a plain value. -/
def Opens (t : Text) : Prop := ∃ c s, t = c :: s ∧ isBlank c = false ∧ c ≠ ']' ∧ c ≠ 'n'

lemma Opens.append {t : Text} (h : Opens t) (rest : Text) : Opens (t ++ rest) := by
  obtain ⟨c, s, rfl, hc⟩ := h
  exact ⟨c, s ++ rest, rfl, hc⟩

lemma exists_digit (n : ℕ) : ∃ c ds, Text.ofNat n = c :: ds ∧ c.isDigit = true := by
  obtain ⟨c, ds, hds⟩ := List.exists_cons_of_ne_nil (Nat.toDigits_ne_nil (b := 10) (n := n))
  refine ⟨c, ds, hds, ?_⟩
  apply isDigit_of_mem_ofNat (n := n)
  rw [Text.ofNat, hds]
  exact List.mem_cons_self

lemma ne_of_isDigit {c d : Char} (hc : c.isDigit = true) (hd : d.isDigit = false) : c ≠ d := by
  intro heq
  rw [heq, hd] at hc
  cases hc

lemma opens_ofNat (n : ℕ) : Opens (Text.ofNat n) := by
  obtain ⟨c, ds, hds, hdigit⟩ := exists_digit n
  refine ⟨c, ds, hds, ?_, ne_of_isDigit hdigit rfl, ne_of_isDigit hdigit rfl⟩
  have hspace : c ≠ ' ' := ne_of_isDigit hdigit rfl
  have htab : c ≠ '\t' := ne_of_isDigit hdigit rfl
  have hreturn : c ≠ '\r' := ne_of_isDigit hdigit rfl
  have hfeed : c ≠ '\n' := ne_of_isDigit hdigit rfl
  simp [isBlank, hspace, htab, hreturn, hfeed]

/-- The front of a plain value is visible, and neither closes a list nor is that of null. -/
lemma Plain.opens {k : ℕ} {v : Json} (h : Plain k v) (layout : Layout) (depth : ℕ) :
    Opens (write layout depth v) := by
  cases h with
  | boolean k b =>
    cases b with
    | true => exact ⟨'t', _, by rw [write]; rfl, rfl, by decide, by decide⟩
    | false => exact ⟨'f', _, by rw [write]; rfl, rfl, by decide, by decide⟩
  | @count k n hn =>
    rw [write]
    exact opens_ofNat n
  | string k t => exact ⟨'"', _, by rw [write, writeString]; rfl, rfl, by decide, by decide⟩
  | @array k vs h =>
    cases vs with
    | nil => exact ⟨'[', _, by rw [write], rfl, by decide, by decide⟩
    | cons v vs => exact ⟨'[', _, by rw [write]; rfl, rfl, by decide, by decide⟩
  | @object k ms h =>
    cases ms with
    | nil => exact ⟨'{', _, by rw [write], rfl, by decide, by decide⟩
    | cons m ms => exact ⟨'{', _, by rw [write]; rfl, rfl, by decide, by decide⟩

lemma skipBlanks_of_opens {t : Text} (h : Opens t) : skipBlanks t = t := by
  obtain ⟨c, s, rfl, hc, -⟩ := h
  rw [skipBlanks, List.dropWhile_cons_of_neg (by simp [hc])]

/-- A line break of a layout is made of blanks. -/
lemma skipBlanks_newline (layout : Layout) (depth : ℕ) (t : Text) :
    skipBlanks (layout.newline depth ++ t) = skipBlanks t := by
  cases layout with
  | compact => rfl
  | pretty =>
    have hblank : ∀ c ∈ Layout.newline .pretty depth, isBlank c = true := by
      intro c hc
      rcases List.mem_cons.1 hc with rfl | hspace
      · rfl
      · rw [(List.mem_replicate.1 hspace).2]
        rfl
    exact List.dropWhile_append_of_pos hblank

/-- A line break in front of a mark keeps it apart from a numeral. -/
lemma apart_newline (layout : Layout) (depth : ℕ) {c : Char} {t : Text}
    (h : c.isDigit = false ∧ c ≠ '.' ∧ c ≠ 'e' ∧ c ≠ 'E') :
    Apart (layout.newline depth ++ c :: t) := by
  cases layout with
  | compact => exact apart_cons h
  | pretty => exact apart_cons (by decide)

/-! ## Fronts -/

section Fronts

variable {α β σ : Type} {v : Json} {t rest : Text}

/-- The reader takes what is written of `v` for `a`, behind any blanks and in front of anything. -/
def Reads (r : Reader α) (v : Json) (a : α) : Prop :=
  ∀ ⦃layout : Layout⦄ ⦃depth : ℕ⦄ ⦃t rest : Text⦄, Apart rest →
    skipBlanks t = write layout depth v ++ rest → r t = .ok (a, rest)

lemma bind_ok {r : Reader α} {f : α → Reader β} {a : α} (h : r t = .ok (a, rest)) :
    (r >>= f) t = f a rest := by
  show (r t >>= fun p => f p.1 p.2) = _
  rw [h]
  rfl

lemma Reads.bind_pure {r : Reader α} {a : α} (h : Reads r v a) (f : α → β) :
    Reads (do let a ← r; return f a) v (f a) := by
  intro layout depth t rest hrest ht
  rw [bind_ok (h hrest ht)]
  rfl

/-- A string as a text that goes on behind it. -/
lemma write_string_append (layout : Layout) (depth : ℕ) (s rest : Text) :
    write layout depth (.string s) ++ rest = '"' :: (s.flatMap escapedChar ++ '"' :: rest) := by
  rw [write, writeString]
  simp

lemma reads_token_string (s : Text) : Reads token (.string s) (.string s) := by
  intro layout depth t rest _ ht
  rw [token, ht, write_string_append]
  show (readString _).map _ = _
  rw [readString_flatMap]
  rfl

lemma reads_token_boolean (b : Bool) : Reads token (.boolean b) (.boolean b) := by
  intro layout depth t rest _ ht
  cases b with
  | true =>
    have hfront : write layout depth (.boolean true) ++ rest =
        't' :: 'r' :: 'u' :: 'e' :: rest := by
      rw [write]
      rfl
    rw [token, ht, hfront]
    rfl
  | false =>
    have hfront : write layout depth (.boolean false) ++ rest =
        'f' :: 'a' :: 'l' :: 's' :: 'e' :: rest := by
      rw [write]
      rfl
    rw [token, ht, hfront]
    rfl

/-- A digit is the front of a number, and of nothing else. -/
lemma token_of_digit {c : Char} {s : Text} (hc : c.isDigit = true) (ht : skipBlanks t = c :: s) :
    token t = Reader.number false (c :: s) := by
  unfold token
  rw [ht]
  split
  case h_1 heq => cases heq
  case h_9 heq =>
    obtain ⟨rfl, rfl⟩ := List.cons.inj heq
    rw [if_pos hc]
  all_goals
    rename_i heq
    exact absurd (List.cons.inj heq).1 (ne_of_isDigit hc rfl)

/-- A number is read as a token up to where its digits end. -/
lemma reads_token_count {n : ℕ} (h : n < Nat.pow 2 64) :
    Reads token (.number (.int (.ofNat n))) (.number (.int (.ofNat n))) := by
  intro layout depth t rest hrest ht
  have hwritten : write layout depth (.number (.int (.ofNat n))) = Text.ofNat n := by
    rw [write]
    rfl
  have hnumber : Reader.number false (Text.ofNat n ++ rest) =
      .ok (.number (.int (.ofNat n)), rest) := by
    unfold Reader.number
    rw [numeral_read_ofNat _ n hrest]
    simp only [bind, Except.bind, value?_ofNat h]
    rfl
  obtain ⟨c, ds, hds, hc⟩ := exists_digit n
  rw [hwritten, hds] at ht
  rw [hds] at hnumber
  exact (token_of_digit hc ht).trans hnumber

/-! ## Going through a container -/

lemma next_close {close : Char} {first : Bool} (ht : skipBlanks t = close :: rest) :
    next close first t = .ok (false, rest) := by
  simp only [next, ht, if_true]

lemma next_first {close c : Char} {s : Text} (ht : skipBlanks t = c :: s) (hc : c ≠ close) :
    next close true t = .ok (true, c :: s) := by
  simp only [next, ht, if_neg hc, if_true]

/-- A comma leads on to the next item or member. -/
lemma next_later {close c : Char} {s u : Text} (hclose : ',' ≠ close)
    (ht : skipBlanks t = ',' :: u) (hu : skipBlanks u = c :: s) (hc : c ≠ close) :
    next close false t = .ok (true, c :: s) := by
  simp only [next, ht, hu, if_neg hclose, if_neg hc, Bool.false_eq_true, if_false, if_true]

section Items

variable {item : Reader α} {f : α → Json} {k : ℕ} {layout : Layout} {depth : ℕ}

/-- Behind a value of an array stands a comma or the closing bracket. -/
lemma apart_writeItems (layout : Layout) (depth depth' : ℕ) (vs : List Json) (rest : Text) :
    Apart (writeItems layout depth vs ++ (layout.newline depth' ++ ']' :: rest)) := by
  cases vs with
  | nil =>
    rw [writeItems]
    exact apart_newline layout depth' (by decide)
  | cons v vs =>
    rw [writeItems]
    exact apart_cons (by decide)

lemma length_le_writeItems (layout : Layout) (depth : ℕ) (vs : List Json) :
    vs.length ≤ (writeItems layout depth vs).length := by
  induction vs with
  | nil => exact Nat.zero_le _
  | cons v vs ih =>
    rw [writeItems]
    simp only [List.length_append, List.length_cons]
    omega

/-- One item, once the reader has got to it. -/
lemma items_cons (layout : Layout) (depth : ℕ) {first : Bool} {x : Char} {clock tail : Text} {a : α}
    {as : List α} (hplain : Plain k (f a)) (hreads : Reads item (f a) a) (htail : Apart tail)
    (hnext : ∀ c s, write layout depth (f a) ++ tail = c :: s → c ≠ ']' →
      next ']' first t = .ok (true, c :: s))
    (hlater : items item clock false tail = .ok (as, rest)) :
    items item (x :: clock) first t = .ok (a :: as, rest) := by
  have hopens : Opens (write layout depth (f a) ++ tail) := (hplain.opens layout depth).append tail
  have hskip : skipBlanks (write layout depth (f a) ++ tail) = write layout depth (f a) ++ tail :=
    skipBlanks_of_opens hopens
  have hitem : item (write layout depth (f a) ++ tail) = .ok (a, tail) := hreads htail hskip
  obtain ⟨c, s, hs, -, hc, -⟩ := hopens
  rw [hs] at hitem
  show (next ']' first >>= _) _ = _
  rw [bind_ok (hnext c s hs hc)]
  show (item >>= _) _ = _
  rw [bind_ok hitem]
  show (items item clock false >>= _) _ = _
  rw [bind_ok hlater]
  rfl

/-- The items behind the first one, each of them behind its comma, if the clock lasts. -/
lemma items_later (clock : Text) {as : List α} (hclock : as.length < clock.length)
    (h : ∀ a ∈ as, Plain k (f a) ∧ Reads item (f a) a) :
    items item clock false
      (writeItems layout (depth + 1) (as.map f) ++ (layout.newline depth ++ ']' :: rest)) =
        .ok (as, rest) := by
  induction as generalizing clock with
  | nil =>
    obtain ⟨x, clock, rfl⟩ := List.exists_cons_of_length_pos hclock
    have hclose : skipBlanks (layout.newline depth ++ ']' :: rest) = ']' :: rest :=
      skipBlanks_newline layout depth _
    rw [List.map_nil, writeItems, List.nil_append]
    show (next ']' false >>= _) _ = _
    rw [bind_ok (next_close hclose)]
    rfl
  | cons a as ih =>
    obtain ⟨x, clock, rfl⟩ := List.exists_cons_of_length_pos (Nat.zero_lt_of_lt hclock)
    obtain ⟨hplain, hreads⟩ := h a List.mem_cons_self
    have hlater := ih clock (Nat.lt_of_succ_lt_succ hclock) fun b hb =>
      h b (List.mem_cons_of_mem a hb)
    rw [List.map_cons, writeItems]
    simp only [List.cons_append, List.append_assoc]
    refine items_cons layout (depth + 1) hplain hreads
      (apart_writeItems _ _ _ _ _) (fun c s hs hc => ?_) hlater
    refine next_later (by decide) rfl ?_ hc
    rw [skipBlanks_newline, skipBlanks_of_opens ((hplain.opens _ _).append _), hs]

/-- The items of an array are read back, if each of them is. -/
lemma allItems_of_reads {as : List α} (h : ∀ a ∈ as, Plain k (f a) ∧ Reads item (f a) a)
    (ht : write layout depth (.array (as.map f)) ++ rest = '[' :: t) :
    allItems item t = .ok (as, rest) := by
  cases as with
  | nil =>
    rw [List.map_nil, write] at ht
    cases ht
    show (next ']' true >>= _) _ = _
    rw [bind_ok (next_close rfl)]
    rfl
  | cons a as =>
    obtain ⟨hplain, hreads⟩ := h a List.mem_cons_self
    rw [List.map_cons, write] at ht
    simp only [List.cons_append, List.append_assoc] at ht
    obtain ⟨-, rfl⟩ := List.cons.inj ht
    -- each item but the first has a comma in front, so that the clock is long enough
    refine items_cons layout (depth + 1) hplain hreads
      (apart_writeItems layout (depth + 1) depth (as.map f) rest) (fun c s hs hc => ?_)
      (items_later _ ?_ fun b hb => h b (List.mem_cons_of_mem a hb))
    · refine next_first ?_ hc
      rw [skipBlanks_newline, ← hs]
      exact skipBlanks_of_opens ((hplain.opens _ _).append _)
    · have hlength := length_le_writeItems layout (depth + 1) (as.map f)
      simp only [List.length_append, List.length_cons, List.length_map] at hlength ⊢
      omega

end Items

section Members

variable {member : σ → Text → Reader σ} {k : ℕ} {layout : Layout} {depth : ℕ}
  {ms : List (Text × Json)} {st st' : σ}

/-- Members that lead from one state to another, one after the other. -/
inductive Takes (member : σ → Text → Reader σ) : List (Text × Json) → σ → σ → Prop where
  | nil (st : σ) : Takes member [] st st
  | cons {key : Text} {v : Json} {ms : List (Text × Json)} {st st₁ st₂ : σ}
    (h : ∀ (layout : Layout) (depth : ℕ) {rest : Text}, Apart rest →
      member st key (layout.colon ++ (write layout depth v ++ rest)) = .ok (st₁, rest))
    (hrest : Takes member ms st₁ st₂) : Takes member ((key, v) :: ms) st st₂

/-- A value behind its colon. -/
lemma colon_bind {r : Reader α} {v : Json} {a : α} (hplain : Plain k v) (h : Reads r v a)
    (hrest : Apart rest) :
    (do colon; r) (layout.colon ++ (write layout depth v ++ rest)) = .ok (a, rest) := by
  have hopens : Opens (write layout depth v ++ rest) := (hplain.opens layout depth).append rest
  have hskip : skipBlanks (write layout depth v ++ rest) = write layout depth v ++ rest :=
    skipBlanks_of_opens hopens
  cases layout with
  | compact =>
    have hcolon : colon (':' :: (write .compact depth v ++ rest)) =
        .ok ((), write .compact depth v ++ rest) := rfl
    exact (bind_ok hcolon).trans (h hrest hskip)
  | pretty =>
    have hcolon : colon (':' :: ' ' :: (write .pretty depth v ++ rest)) =
        .ok ((), ' ' :: (write .pretty depth v ++ rest)) := rfl
    exact (bind_ok hcolon).trans (h hrest hskip)

/-- Behind a value of an object stands a comma or the closing brace. -/
lemma apart_writeMembers (layout : Layout) (depth depth' : ℕ) (ms : List (Text × Json))
    (rest : Text) :
    Apart (writeMembers layout depth ms ++ (layout.newline depth' ++ '}' :: rest)) := by
  cases ms with
  | nil =>
    rw [writeMembers]
    exact apart_newline layout depth' (by decide)
  | cons m ms =>
    rw [writeMembers]
    exact apart_cons (by decide)

lemma length_le_writeMembers (layout : Layout) (depth : ℕ) (ms : List (Text × Json)) :
    ms.length ≤ (writeMembers layout depth ms).length := by
  induction ms with
  | nil => exact Nat.zero_le _
  | cons m ms ih =>
    rw [writeMembers]
    simp only [List.length_append, List.length_cons]
    omega

/-- One member, once the reader has got to its key. -/
lemma members_cons {first : Bool} {x : Char} {clock tail : Text} {key behind : Text} {st₁ : σ}
    (hmember : member st key behind = .ok (st₁, tail))
    (hnext : next '}' first t =
      .ok (true, '"' :: (key.flatMap escapedChar ++ '"' :: behind)))
    (hlater : members stringBody member clock false st₁ tail = .ok (st', rest)) :
    members stringBody member (x :: clock) first st t = .ok (st', rest) := by
  have hkey : stringBody (key.flatMap escapedChar ++ '"' :: behind) = .ok (key, behind) :=
    readString_flatMap key behind
  have hquote (u : Text) : keyQuote ('"' :: u) = .ok ((), u) := rfl
  show (next '}' first >>= _) _ = _
  rw [bind_ok hnext]
  show (keyQuote >>= _) _ = _
  rw [bind_ok (hquote _)]
  show (stringBody >>= _) _ = _
  rw [bind_ok hkey]
  show (member st key >>= _) _ = _
  rw [bind_ok hmember]
  exact hlater

/-- The members behind the first one, each of them behind its comma, if the clock lasts. -/
lemma members_later (clock : Text) (hclock : ms.length < clock.length)
    (h : Takes member ms st st') :
    members stringBody member clock false st
      (writeMembers layout (depth + 1) ms ++ (layout.newline depth ++ '}' :: rest)) =
        .ok (st', rest) := by
  induction h generalizing clock with
  | nil st =>
    obtain ⟨x, clock, rfl⟩ := List.exists_cons_of_length_pos hclock
    have hclose : skipBlanks (layout.newline depth ++ '}' :: rest) = '}' :: rest :=
      skipBlanks_newline layout depth _
    rw [writeMembers, List.nil_append]
    show (next '}' false >>= _) _ = _
    rw [bind_ok (next_close hclose)]
    rfl
  | @cons key v ms st st₁ st₂ hmember hrest ih =>
    obtain ⟨x, clock, rfl⟩ := List.exists_cons_of_length_pos (Nat.zero_lt_of_lt hclock)
    have hlater := ih clock (Nat.lt_of_succ_lt_succ hclock)
    rw [writeMembers, writeString]
    simp only [List.cons_append, List.append_assoc, List.nil_append]
    refine members_cons (hmember layout (depth + 1) (apart_writeMembers _ _ _ _ _)) ?_ hlater
    refine next_later (by decide) rfl ?_ (by decide)
    rw [skipBlanks_newline]
    rfl

/-- The members of an object are taken in, from the first state to the last. -/
lemma allMembers_of_takes (h : Takes member ms st st')
    (ht : write layout depth (.object ms) ++ rest = '{' :: t) :
    allMembers stringBody member st t = .ok (st', rest) := by
  cases h with
  | nil =>
    rw [write] at ht
    cases ht
    show (next '}' true >>= _) _ = _
    rw [bind_ok (next_close rfl)]
    rfl
  | @cons key v ms _ st₁ _ hmember hrest =>
    rw [write, writeString] at ht
    simp only [List.cons_append, List.append_assoc, List.nil_append] at ht
    obtain ⟨-, rfl⟩ := List.cons.inj ht
    -- each member but the first has a comma in front, so that the clock is long enough
    refine members_cons (hmember layout (depth + 1) (apart_writeMembers layout _ depth ms rest)) ?_
      (members_later _ ?_ hrest)
    · refine next_first ?_ (by decide)
      rw [skipBlanks_newline]
      rfl
    · have hlength := length_le_writeMembers layout (depth + 1) ms
      simp only [List.length_append, List.length_cons]
      omega

end Members

/-! ## Values -/

lemma token_of_array {layout : Layout} {depth : ℕ} {vs : List Json}
    (ht : skipBlanks t = write layout depth (.array vs) ++ rest) :
    ∃ s, write layout depth (.array vs) ++ rest = '[' :: s ∧ token t = .ok (.openArray, s) := by
  have hopen : ∃ s, write layout depth (.array vs) ++ rest = '[' :: s := by
    cases vs with
    | nil => exact ⟨_, by rw [write]; rfl⟩
    | cons v vs => exact ⟨_, by rw [write]; rfl⟩
  obtain ⟨s, hs⟩ := hopen
  refine ⟨s, hs, ?_⟩
  rw [token, ht, hs]
  rfl

lemma token_of_object {layout : Layout} {depth : ℕ} {ms : List (Text × Json)}
    (ht : skipBlanks t = write layout depth (.object ms) ++ rest) :
    ∃ s, write layout depth (.object ms) ++ rest = '{' :: s ∧ token t = .ok (.openObject, s) := by
  have hopen : ∃ s, write layout depth (.object ms) ++ rest = '{' :: s := by
    cases ms with
    | nil => exact ⟨_, by rw [write]; rfl⟩
    | cons m ms => exact ⟨_, by rw [write]; rfl⟩
  obtain ⟨s, hs⟩ := hopen
  refine ⟨s, hs, ?_⟩
  rw [token, ht, hs]
  rfl

/-- Gathers a member of an object, the latest in front. -/
def gatherMember (depth : ℕ) (ms : List (Text × Json)) (key : Text) :
    Reader (List (Text × Json)) := do
  colon
  let v ← Reader.value depth
  return (key, v) :: ms

lemma takes_gatherMember {k depth : ℕ} {ms acc : List (Text × Json)}
    (h : ∀ m ∈ ms, Plain k m.2 ∧ Reads (Reader.value depth) m.2 m.2) :
    Takes (gatherMember depth) ms acc (ms.reverse ++ acc) := by
  induction ms generalizing acc with
  | nil => exact .nil acc
  | cons m ms ih =>
    obtain ⟨key, v⟩ := m
    obtain ⟨hplain, hreads⟩ := h (key, v) List.mem_cons_self
    rw [List.reverse_cons, List.append_assoc]
    have hlater : Takes (gatherMember depth) ms ((key, v) :: acc) (ms.reverse ++ (key, v) :: acc) :=
      ih fun m hm => h m (List.mem_cons_of_mem _ hm)
    refine .cons (fun layout depth rest hrest => ?_) hlater
    exact colon_bind hplain (hreads.bind_pure fun v => (key, v) :: acc) hrest

/-- A plain value is read back as it is. -/
theorem reads_value {k depth : ℕ} {v : Json} (h : Plain k v) (hk : k ≤ depth) :
    Reads (Reader.value depth) v v := by
  -- by induction on the nesting, which the reader counts down as well
  induction h generalizing depth with
  | boolean k b =>
    intro layout level t rest hrest ht
    have htoken := reads_token_boolean b hrest ht
    cases depth <;> exact (bind_ok htoken).trans rfl
  | count k hn =>
    intro layout level t rest hrest ht
    have htoken := reads_token_count hn hrest ht
    cases depth <;> exact (bind_ok htoken).trans rfl
  | string k s =>
    intro layout level t rest hrest ht
    have htoken := reads_token_string s hrest ht
    cases depth <;> exact (bind_ok htoken).trans rfl
  | @array k vs h ih =>
    obtain ⟨depth, rfl⟩ := Nat.exists_eq_add_of_le' (Nat.le_of_add_left_le hk)
    intro layout level t rest hrest ht
    obtain ⟨s, hs, htoken⟩ := token_of_array ht
    have hwritten : write layout level (.array (vs.map fun v => v)) ++ rest = '[' :: s := by
      rwa [List.map_id']
    have hitems : allItems (Reader.value depth) s = .ok (vs, rest) :=
      allItems_of_reads (fun v hv => ⟨h v hv, ih v hv (by omega)⟩) hwritten
    refine (bind_ok htoken).trans ?_
    exact (bind_ok hitems).trans rfl
  | @object k ms h ih =>
    obtain ⟨depth, rfl⟩ := Nat.exists_eq_add_of_le' (Nat.le_of_add_left_le hk)
    intro layout level t rest hrest ht
    obtain ⟨s, hs, htoken⟩ := token_of_object ht
    have htakes : Takes (gatherMember depth) ms [] (ms.reverse ++ []) :=
      takes_gatherMember fun m hm => ⟨h m hm, ih m hm (by omega)⟩
    refine (bind_ok htoken).trans ?_
    refine (bind_ok (allMembers_of_takes htakes hs)).trans ?_
    -- the members have been gathered with the latest in front
    show Except.ok (Json.object (ms.reverse ++ []).reverse, rest) = _
    rw [List.append_nil, List.reverse_reverse]

end Fronts

end DialogueScript.Json
