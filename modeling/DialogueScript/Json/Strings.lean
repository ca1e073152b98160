import DialogueScript.Json.Fault

/-!
# JSON strings

The body of a string, after its opening quote. `readString` decodes it: a surrogate must come
with its partner. `skipString` only looks for the closing quote, as is done for a member that
nobody asks for.
-/

namespace DialogueScript.Json

open Text (byteSize)

/-- The value of a hexadecimal digit. -/
def hexValue? (c : Char) : Option Nat :=
  if '0' ≤ c ∧ c ≤ '9' then some (c.toNat - '0'.toNat)
  else if 'a' ≤ c ∧ c ≤ 'f' then some (c.toNat - 'a'.toNat + 10)
  else if 'A' ≤ c ∧ c ≤ 'F' then some (c.toNat - 'A'.toNat + 10)
  else none

/-- Four hexadecimal digits. A text with fewer than four bytes left ends too early. -/
def readHex (t : Text) : Except Fault (Nat × Text) :=
  match t with
  | a :: b :: c :: d :: rest =>
    match hexValue? a, hexValue? b, hexValue? c, hexValue? d with
    | some a, some b, some c, some d => .ok (((a * 16 + b) * 16 + c) * 16 + d, rest)
    | _, _, _, _ => .error .malformed
  | t => if byteSize t < 4 then .error .endOfText else .error .malformed

theorem length_readHex {t rest : Text} {n : Nat} (h : readHex t = .ok (n, rest)) :
    rest.length < t.length := by
  unfold readHex at h
  split at h
  · split at h
    · simp only [Except.ok.injEq, Prod.mk.injEq] at h
      obtain ⟨_, rfl⟩ := h
      simp only [List.length_cons]; omega
    · cases h
  · split at h <;> cases h

/-- What a single letter after a backslash stands for. -/
def simpleEscape? (c : Char) : Option Char :=
  if c = '"' ∨ c = '\\' ∨ c = '/' then some c
  else if c = 'b' then some '\x08'
  else if c = 'f' then some '\x0c'
  else if c = 'n' then some '\n'
  else if c = 'r' then some '\r'
  else if c = 't' then some '\t'
  else none

/-- Whether a code unit is the first half of a pair. -/
def isHighSurrogate (n : Nat) : Bool := 0xD800 ≤ n && n < 0xDC00

/-- Whether a code unit is the second half of a pair. -/
def isLowSurrogate (n : Nat) : Bool := 0xDC00 ≤ n && n < 0xE000

/-- The second half of a pair whose first half is `high`. -/
def readPartner (high : Nat) (t : Text) : Except Fault (Char × Text) :=
  match t with
  | '\\' :: 'u' :: t =>
    match readHex t with
    | .error e => .error e
    | .ok (low, rest) =>
      if isLowSurrogate low then
        .ok (Char.ofNat (0x10000 + (high - 0xD800) * 0x400 + (low - 0xDC00)), rest)
      else .error .malformed
  | [] => .error .endOfText
  | ['\\'] => .error .endOfText
  | _ => .error .malformed

/-- The character of an escape, after its backslash. -/
def readEscape (t : Text) : Except Fault (Char × Text) :=
  match t with
  | [] => .error .endOfText
  | 'u' :: t =>
    match readHex t with
    | .error e => .error e
    | .ok (n, rest) =>
      if isLowSurrogate n then .error .malformed
      else if isHighSurrogate n then readPartner n rest
      else .ok (Char.ofNat n, rest)
  | c :: t =>
    match simpleEscape? c with
    | some c => .ok (c, t)
    | none => .error .malformed

theorem length_readPartner {high : Nat} {t rest : Text} {c : Char}
    (h : readPartner high t = .ok (c, rest)) : rest.length < t.length := by
  unfold readPartner at h
  split at h
  · split at h
    · cases h
    · rename_i hr
      have := length_readHex hr
      split at h
      · simp only [Except.ok.injEq, Prod.mk.injEq] at h
        obtain ⟨_, rfl⟩ := h
        simp only [List.length_cons]; omega
      · cases h
  all_goals cases h

theorem length_readEscape {t rest : Text} {c : Char} (h : readEscape t = .ok (c, rest)) :
    rest.length < t.length := by
  unfold readEscape at h
  split at h
  · cases h
  · split at h
    · cases h
    · rename_i hr
      have := length_readHex hr
      split at h
      · cases h
      · split at h
        · have := length_readPartner h
          simp only [List.length_cons]; omega
        · simp only [Except.ok.injEq, Prod.mk.injEq] at h
          obtain ⟨_, rfl⟩ := h
          simp only [List.length_cons]; omega
  · split at h
    · simp only [Except.ok.injEq, Prod.mk.injEq] at h
      obtain ⟨_, rfl⟩ := h
      simp
    · cases h

/-- The string up to its closing quote, and what follows. -/
def readString (t : Text) : Except Fault (Text × Text) :=
  match t with
  | [] => .error .endOfText
  | '"' :: t => .ok ([], t)
  | '\\' :: t =>
    match _h : readEscape t with
    | .error e => .error e
    | .ok (c, rest) => (readString rest).map fun (s, rest) => (c :: s, rest)
  | c :: t =>
    if c.toNat < 0x20 then .error .malformed
    else (readString t).map fun (s, rest) => (c :: s, rest)
termination_by t.length
decreasing_by
  · have := length_readEscape _h
    simp only [List.length_cons]; omega
  · simp

/-- An escape, after its backslash, that nobody decodes. -/
def skipEscape (t : Text) : Except Fault Text :=
  match t with
  | [] => .error .endOfText
  | 'u' :: t => (readHex t).map Prod.snd
  | c :: t => if (simpleEscape? c).isSome then .ok t else .error .malformed

theorem length_skipEscape {t rest : Text} (h : skipEscape t = .ok rest) :
    rest.length < t.length := by
  unfold skipEscape at h
  split at h
  · cases h
  · cases hr : readHex _ with
    | error e => rw [hr] at h; cases h
    | ok p =>
      rw [hr] at h
      have := @length_readHex _ p.2 p.1 hr
      simp only [Except.map, Except.ok.injEq] at h
      subst h
      simp only [List.length_cons]; omega
  · split at h
    · simp only [Except.ok.injEq] at h
      subst h; simp
    · cases h

/-- What follows a string that nobody decodes. -/
def skipString (t : Text) : Except Fault Text :=
  match t with
  | [] => .error .endOfText
  | '"' :: t => .ok t
  | '\\' :: t =>
    match _h : skipEscape t with
    | .error e => .error e
    | .ok rest => skipString rest
  | c :: t => if c.toNat < 0x20 then .error .malformed else skipString t
termination_by t.length
decreasing_by
  · have := length_skipEscape _h
    simp only [List.length_cons]; omega
  · simp

end DialogueScript.Json
