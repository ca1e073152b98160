import DialogueScript.Proofs.VariableNames

/-!
# Interpolation is one substitution

A text is cut into its placeholders and the characters around them. No name holds a brace, so that
no placeholder begins inside of another: looking for them character by character finds the same ones
as going on behind each (`placeholdersFrom_of_braced`). Interpolation shows the pieces one by one,
and puts a value in the place of a placeholder; what it has put in is no piece of the text
(`interpolate_replaces_placeholders`).

The same comes of a search that leaps from one opening brace to the next (`scanFrom`) and of a loop
that copies the bytes between the placeholders it has found (`copyAround`).
-/

namespace DialogueScript

/-! ## Bytes of a text -/

namespace Text

/-- The text without the characters that begin in its first `n` bytes. -/
def dropBytes : ℕ → Text → Text
  | 0, t => t
  | _ + 1, [] => []
  | n + 1, c :: t => dropBytes (n + 1 - c.utf8Size) t

/-- The characters of the text that begin in its first `n` bytes. -/
def takeBytes : ℕ → Text → Text
  | 0, _ => []
  | _ + 1, [] => []
  | n + 1, c :: t => c :: takeBytes (n + 1 - c.utf8Size) t

/-- A character takes a byte at least, so that there is one to count down from. -/
lemma exists_utf8Size (c : Char) (n : ℕ) : ∃ m, c.utf8Size + n = m + 1 ∧ m + 1 - c.utf8Size = n :=
  ⟨c.utf8Size + n - 1, by have := c.utf8Size_pos; omega, by have := c.utf8Size_pos; omega⟩

lemma dropBytes_cons (c : Char) (n : ℕ) (t : Text) :
    dropBytes (c.utf8Size + n) (c :: t) = dropBytes n t := by
  obtain ⟨m, hm, hrest⟩ := exists_utf8Size c n
  rw [hm, dropBytes, hrest]

lemma takeBytes_cons (c : Char) (n : ℕ) (t : Text) :
    takeBytes (c.utf8Size + n) (c :: t) = c :: takeBytes n t := by
  obtain ⟨m, hm, hrest⟩ := exists_utf8Size c n
  rw [hm, takeBytes, hrest]

lemma dropBytes_append (a b : Text) : dropBytes (byteSize a) (a ++ b) = b := by
  induction a with
  | nil => rw [byteSize, dropBytes, List.nil_append]
  | cons c a ih => rw [byteSize, List.cons_append, dropBytes_cons, ih]

lemma takeBytes_append (a b : Text) : takeBytes (byteSize a) (a ++ b) = a := by
  induction a with
  | nil => rw [byteSize, takeBytes]
  | cons c a ih => rw [byteSize, List.cons_append, takeBytes_cons, ih]

/-- The text from byte `first` on and up to byte `last`. -/
def slice (first last : ℕ) (t : Text) : Text := takeBytes (last - first) (dropBytes first t)

lemma slice_append (a b c : Text) : slice (byteSize a) (byteSize (a ++ b)) (a ++ b ++ c) = b := by
  rw [slice, byteSize_append, Nat.add_sub_cancel_left, List.append_assoc, dropBytes_append,
    takeBytes_append]

end Text

namespace Variable

open Text

variable {t : Text} {offset : ℕ} {p q : Placeholder}

/-! ## Occurrences -/

/-- The placeholder's name stands in braces in the text, from byte `p.start` on and up to byte
`p.stop`. Both are the sizes of what comes before them, so that no character is cut. -/
def Occurs (t : Text) (p : Placeholder) : Prop :=
  IsName p.name ∧ ∃ a b, t = a ++ ('{' :: (p.name ++ ['}']) ++ b) ∧ p.start = byteSize a ∧
    p.stop = byteSize (a ++ '{' :: (p.name ++ ['}']))

lemma byteSize_braced (name : Text) : byteSize ('{' :: (name ++ ['}'])) = byteSize name + 2 := by
  rw [byteSize, byteSize_append]
  show 1 + (byteSize name + 1) = byteSize name + 2
  omega

lemma mem_placeholders_iff : p ∈ placeholders t ↔ Occurs t p := by
  rw [placeholders, mem_placeholdersFrom_iff, Occurs]
  refine and_congr_right fun _ => exists₂_congr fun a b => and_congr_right fun _ => ?_
  rw [byteSize_append, byteSize_braced, Nat.zero_add, Nat.add_assoc]
  exact and_congr_right fun hstart => by rw [hstart]

/-! ## Going on behind a placeholder -/

lemma braced?_eq_none_of_ne {c : Char} (hc : c ≠ '{') : braced? (c :: t) = none := by
  rw [Option.eq_none_iff_forall_ne_some]
  rintro ⟨name, rest⟩ h
  exact hc (List.cons.inj (braced?_eq_some_iff.1 h).2).1

/-- Nothing is found where there is no opening brace. -/
lemma placeholdersFrom_append {w : Text} (hw : '{' ∉ w) :
    placeholdersFrom offset (w ++ t) = placeholdersFrom (offset + byteSize w) t := by
  induction w generalizing offset with
  | nil => rfl
  | cons c w ih =>
    have hc : c ≠ '{' := fun heq => hw (by rw [heq]; exact List.mem_cons_self)
    have hrest : '{' ∉ w := fun hmem => hw (List.mem_cons_of_mem c hmem)
    rw [List.cons_append, placeholdersFrom, braced?_eq_none_of_ne hc, byteSize, ← Nat.add_assoc]
    exact ih hrest

lemma IsName.not_mem {name : Text} (h : IsName name) : '{' ∉ name ++ ['}'] := by
  intro hmem
  rcases List.mem_append.1 hmem with hmem | hmem
  · exact absurd (h.2 '{' hmem) (by decide)
  · exact absurd (List.mem_singleton.1 hmem) (by decide)

/-- Behind a placeholder the search goes on at its closing brace. -/
lemma placeholdersFrom_of_braced {name rest : Text} (h : braced? t = some (name, rest)) :
    placeholdersFrom offset t =
      ⟨offset, offset + byteSize name + 2, name⟩ ::
        placeholdersFrom (offset + byteSize name + 2) rest := by
  obtain ⟨hname, rfl⟩ := braced?_eq_some_iff.1 h
  have hinside : name ++ '}' :: rest = (name ++ ['}']) ++ rest := by simp
  have hsize : offset + '{'.utf8Size + byteSize (name ++ ['}']) = offset + byteSize name + 2 := by
    rw [byteSize_append]
    show offset + 1 + (byteSize name + 1) = _
    omega
  rw [placeholdersFrom, h, hinside, placeholdersFrom_append hname.not_mem, hsize]

/-! ## Pieces -/

/-- A piece of a text: one character, or a name in braces. -/
inductive Piece where
  | char (c : Char)
  | braced (name : Text)

namespace Piece

/-- The text of a piece. -/
def text : Piece → Text
  | char c => [c]
  | braced name => '{' :: (name ++ ['}'])

/-- What is shown of a piece: the value of a variable that has one, and anything else as it is. -/
def shown (vars : Variables) : Piece → Text
  | char c => [c]
  | braced name =>
    match vars.lookup name with
    | some v => stringify v
    | none => '{' :: (name ++ ['}'])

/-- The names in braces among the pieces of a text that begins at byte `offset`. -/
def placeholders (offset : ℕ) : List Piece → List Placeholder
  | [] => []
  | char c :: pieces => placeholders (offset + c.utf8Size) pieces
  | braced name :: pieces =>
    ⟨offset, offset + byteSize name + 2, name⟩ :: placeholders (offset + byteSize name + 2) pieces

lemma le_start_of_mem {pieces : List Piece} (h : p ∈ placeholders offset pieces) :
    offset ≤ p.start := by
  induction pieces generalizing offset with
  | nil => cases h
  | cons piece pieces ih =>
    cases piece with
    | char c =>
      have hlater := ih h
      omega
    | braced name =>
      rcases List.mem_cons.1 h with rfl | hmem
      · exact Nat.le_refl _
      · have hlater := ih hmem
        omega

lemma pairwise_placeholders (offset : ℕ) (pieces : List Piece) :
    (placeholders offset pieces).Pairwise (fun p q => p.stop ≤ q.start) := by
  induction pieces generalizing offset with
  | nil => exact List.Pairwise.nil
  | cons piece pieces ih =>
    cases piece with
    | char c => exact ih _
    | braced name => exact List.pairwise_cons.2 ⟨fun q hq => le_start_of_mem hq, ih _⟩

end Piece

/-- Interpolation goes through the pieces of a text, which are the same for every store. -/
lemma exists_pieces (t : Text) :
    ∃ pieces : List Piece, pieces.flatMap Piece.text = t ∧
      (∀ offset, Piece.placeholders offset pieces = placeholdersFrom offset t) ∧
      ∀ vars, interpolate vars t = pieces.flatMap (Piece.shown vars) := by
  -- the recursion of `interpolate` does not look at the store
  induction t using interpolate.induct ([] : Variables) with
  | case1 => exact ⟨[], rfl, fun _ => rfl, fun vars => by rw [interpolate]; rfl⟩
  | case2 c t name rest hbraced ih =>
    obtain ⟨pieces, htext, hplaces, hshown⟩ := ih
    refine ⟨.braced name :: pieces, ?_, fun offset => ?_, fun vars => ?_⟩
    · rw [List.flatMap_cons, htext, (braced?_eq_some_iff.1 hbraced).2]
      simp [Piece.text]
    · rw [placeholdersFrom_of_braced hbraced, Piece.placeholders, hplaces]
    · rw [interpolate_of_braced hbraced, hshown]
      rfl
  | case3 c t hbraced ih =>
    obtain ⟨pieces, htext, hplaces, hshown⟩ := ih
    refine ⟨.char c :: pieces, ?_, fun offset => ?_, fun vars => ?_⟩
    · rw [List.flatMap_cons, htext]
      rfl
    · rw [placeholdersFrom, hbraced, Piece.placeholders, hplaces]
    · rw [interpolate_of_not_braced hbraced, hshown]
      rfl

lemma pairwise_placeholders (t : Text) :
    (placeholders t).Pairwise (fun p q => p.stop ≤ q.start) := by
  obtain ⟨pieces, -, hplaces, -⟩ := exists_pieces t
  rw [placeholders, ← hplaces]
  exact Piece.pairwise_placeholders 0 pieces

/-- Two occurrences are the same, or one of them ends before the other begins. -/
lemma Occurs.eq_or_apart (hp : Occurs t p) (hq : Occurs t q) :
    p = q ∨ p.stop ≤ q.start ∨ q.stop ≤ p.start := by
  obtain ⟨i, hi, rfl⟩ := List.getElem_of_mem (mem_placeholders_iff.2 hp)
  obtain ⟨j, hj, rfl⟩ := List.getElem_of_mem (mem_placeholders_iff.2 hq)
  have hpairs := List.pairwise_iff_getElem.1 (pairwise_placeholders t)
  rcases Nat.lt_trichotomy i j with hlt | rfl | hlt
  · exact Or.inr (Or.inl (hpairs i j hi hj hlt))
  · exact Or.inl rfl
  · exact Or.inr (Or.inr (hpairs j i hj hi hlt))

/-! ## Leaping from brace to brace -/

/-- The placeholders of a text that begins at byte `offset`, found by leaping to the next opening
brace. Behind a placeholder the scan goes on at what follows its closing brace, and behind any other
brace at the very next character. -/
def scanFrom (offset : ℕ) (t : Text) : List Placeholder :=
  match _hcut : cut? '{' t with
  | none => []
  | some (before, after) =>
    let opening := offset + byteSize before
    match _hbraced : braced? ('{' :: after) with
    | some (name, rest) =>
      ⟨opening, opening + byteSize name + 2, name⟩ :: scanFrom (opening + byteSize name + 2) rest
    | none => scanFrom (opening + 1) after
termination_by t.length
decreasing_by
  · exact Nat.lt_of_lt_of_le (length_braced? _hbraced) (length_cut? _hcut)
  · exact length_cut? _hcut

lemma scanFrom_of_cut? {before after : Text} (h : cut? '{' t = some (before, after)) :
    scanFrom offset t =
      match braced? ('{' :: after) with
      | some (name, rest) =>
        ⟨offset + byteSize before, offset + byteSize before + byteSize name + 2, name⟩ ::
          scanFrom (offset + byteSize before + byteSize name + 2) rest
      | none => scanFrom (offset + byteSize before + 1) after := by
  rw [scanFrom, h]
  dsimp only
  split
  · rename_i hbraced
    rw [hbraced]
  · rename_i hbraced
    rw [hbraced]

/-- Leaping misses nothing: no placeholder begins before the next brace, nor inside of another. -/
lemma scanFrom_eq (offset : ℕ) (t : Text) : scanFrom offset t = placeholdersFrom offset t := by
  induction offset, t using scanFrom.induct with
  | case1 offset t hcut =>
    have hnone : '{' ∉ t := cut?_eq_none_iff.1 hcut
    rw [scanFrom, hcut, ← List.append_nil t, placeholdersFrom_append hnone, placeholdersFrom]
  | case2 offset t before after hcut opening name rest hbraced ih =>
    obtain ⟨rfl, hbefore⟩ := cut?_eq_some_iff.1 hcut
    rw [scanFrom_of_cut? hcut, hbraced, placeholdersFrom_append hbefore,
      placeholdersFrom_of_braced hbraced]
    exact congrArg _ ih
  | case3 offset t before after hcut opening hbraced ih =>
    obtain ⟨rfl, hbefore⟩ := cut?_eq_some_iff.1 hcut
    rw [scanFrom_of_cut? hcut, hbraced, placeholdersFrom_append hbefore, placeholdersFrom, hbraced]
    exact ih

/-! ## Copying by byte positions -/

/-- Goes over the placeholders of a text and copies what stands between them: `last` is the byte up
to which the text has gone into `out`, as it is or replaced. A placeholder without a value is passed
over, to be copied with what follows. -/
def copyAround (vars : Variables) (t out : Text) (last : ℕ) : List Placeholder → Text
  | [] => out ++ dropBytes last t
  | p :: places =>
    match vars.lookup p.name with
    | none => copyAround vars t out last places
    | some v => copyAround vars t (out ++ slice last p.start t ++ stringify v) p.stop places

/-- The invariant of the copying: of a text that is cut in three, `done` has been dealt with, `kept`
has been passed over and is still to be copied, and the placeholders of `rest` are to come. -/
lemma copyAround_eq (vars : Variables) (out done kept rest : Text) :
    copyAround vars (done ++ kept ++ rest) out (byteSize done)
        (placeholdersFrom (byteSize (done ++ kept)) rest) =
      out ++ kept ++ interpolate vars rest := by
  induction rest using interpolate.induct vars generalizing out done kept with
  | case1 =>
    rw [placeholdersFrom, copyAround, List.append_nil, dropBytes_append, interpolate,
      List.append_nil]
  | case2 c t name rest hbraced ih =>
    obtain ⟨-, hsplit⟩ := braced?_eq_some_iff.1 hbraced
    have hfront : c :: t = ('{' :: (name ++ ['}'])) ++ rest := by rw [hsplit]; simp
    have hstop : byteSize (done ++ kept) + byteSize name + 2 =
        byteSize (done ++ kept ++ '{' :: (name ++ ['}'])) := by
      rw [byteSize_append _ ('{' :: _), byteSize_braced, Nat.add_assoc]
    rw [placeholdersFrom_of_braced hbraced, copyAround, interpolate_of_braced hbraced, hstop,
      hfront]
    cases vars.lookup name with
    | none =>
      have hpassed := ih out done (kept ++ '{' :: (name ++ ['}']))
      simpa using hpassed
    | some v =>
      have hput := ih (out ++ kept ++ stringify v) (done ++ kept ++ '{' :: (name ++ ['}'])) []
      dsimp only
      rw [slice_append]
      simpa using hput
  | case3 c t hbraced ih =>
    have hpassed := ih out done (kept ++ [c])
    have hoffset : byteSize (done ++ kept) + c.utf8Size = byteSize (done ++ (kept ++ [c])) := by
      rw [← List.append_assoc, byteSize_append _ [c]]
      rfl
    rw [placeholdersFrom, hbraced, interpolate_of_not_braced hbraced, hoffset]
    simpa using hpassed

/-! ## One substitution -/

/-- The placeholders of a text lie apart, and all of them are listed, in order and with the bytes
that they take; a scan that leaps from brace to brace finds the same. The text is made of them and
of the characters around them, and interpolating it puts the value of each known variable in the
place of its placeholder and leaves everything else, as copying the bytes between them does. -/
theorem interpolate_replaces_placeholders (t : Text) :
    (∀ p q, Occurs t p → Occurs t q → p = q ∨ p.stop ≤ q.start ∨ q.stop ≤ p.start) ∧
      (∀ p, p ∈ placeholders t ↔ Occurs t p) ∧
      (placeholders t).Pairwise (fun p q => p.stop ≤ q.start) ∧
      scanFrom 0 t = placeholders t ∧
      (∀ vars, copyAround vars t [] 0 (placeholders t) = interpolate vars t) ∧
      ∃ pieces : List Piece, pieces.flatMap Piece.text = t ∧
        Piece.placeholders 0 pieces = placeholders t ∧
        ∀ vars, interpolate vars t = pieces.flatMap (Piece.shown vars) := by
  obtain ⟨pieces, htext, hplaces, hshown⟩ := exists_pieces t
  exact ⟨fun _ _ => Occurs.eq_or_apart, fun _ => mem_placeholders_iff, pairwise_placeholders t,
    scanFrom_eq 0 t, fun vars => copyAround_eq vars [] [] [] t, pieces, htext, hplaces 0, hshown⟩

/-- A brace in front of a brace, and one that is never closed. -/
example : placeholders "\u00e9\x7b\x7b\u00e9\x7d\x7bb\x7d\x7bc".toList =
    [⟨3, 7, "\u00e9".toList⟩, ⟨7, 10, ['b']⟩] := by
  decide +kernel

end Variable

end DialogueScript
