import DialogueScript.Json.Decoder
import DialogueScript.Proofs.JsonText

/-!
# What decoders recover

A decoder recovers a typed value from a JSON value (`Decoder.Recovers`) if it takes it from that
value, and off the front of every text in which the value is written. Each combinator keeps this:
there is one lemma for each, and a decoder is put together from lemmas as it is from combinators.

A record gathers its members one after the other. `Decoder.Gathers` says that its members lead from
one state to another, each of them by a decoder that recovers the next state.
-/

namespace DialogueScript.Json.Decoder

open Text Reader

variable {α β σ : Type} {k : ℕ} {v : Json} {a : α}

/-- The decoder takes `v` for `a`, as a value and as a text, if at least `k` containers may be
nested. -/
structure Recovers (d : Decoder α) (k : ℕ) (v : Json) (a : α) : Prop where
  plain : Plain k v
  value : d.ofValue v = .ok a
  text : ∀ depth, k ≤ depth → Reads (d.read depth) v a

/-- What is nested less deeply than a bound is so below every greater one. -/
lemma Recovers.mono {d : Decoder α} {k' : ℕ} (h : d.Recovers k v a) (hk : k ≤ k') :
    d.Recovers k' v a where
  plain := h.plain.mono hk
  value := h.value
  text := fun depth hdepth => h.text depth (Nat.le_trans hk hdepth)

/-- What is recovered from a value is read from a whole text, in either layout. -/
lemma Recovers.run {d : Decoder α} (h : d.Recovers k v a) (hk : k ≤ maxDepth) (layout : Layout) :
    d.run (write layout 0 v) = .ok a := by
  have hopens : Opens (write layout 0 v ++ []) := (h.plain.opens layout 0).append []
  have hread : d.read maxDepth (write layout 0 v ++ []) = .ok (a, []) :=
    h.text maxDepth hk apart_nil (skipBlanks_of_opens hopens)
  rw [List.append_nil] at hread
  rw [Decoder.run, Reader.run]
  show (d.read maxDepth (write layout 0 v) >>= _) = _
  rw [hread]
  rfl

/-! ## Single values -/

/-- A decoder whose result is passed on recovers what is made of it. -/
lemma Recovers.map {d : Decoder α} (h : d.Recovers k v a) (f : α → β) :
    (d.map f).Recovers k v (f a) where
  plain := h.plain
  value := by
    show (d.ofValue v).map f = _
    rw [h.value]
    rfl
  text := fun depth hdepth => Reads.bind_pure (h.text depth hdepth) f

/-- A decoder whose result is checked recovers what passes the check. -/
lemma Recovers.check {d : Decoder α} {f : α → Except Fault β} {b : β} (h : d.Recovers k v a)
    (hf : f a = .ok b) : (d.check f).Recovers k v b where
  plain := h.plain
  value := by
    show (d.ofValue v >>= f) = _
    rw [h.value]
    exact hf
  text := by
    intro depth hdepth layout level t rest hrest ht
    refine (bind_ok (h.text depth hdepth hrest ht)).trans ?_
    rw [hf]
    rfl

lemma recovers_any (h : Plain k v) : any.Recovers k v v where
  plain := h
  value := rfl
  text := fun _ hdepth => reads_value h hdepth

/-- What is made of one token is recovered from it. -/
lemma recovers_scalar {f : Token → Except Fault α} (hplain : Plain k v)
    (htoken : Reads token v v.front) (hf : f v.front = .ok a) : (scalar f).Recovers k v a where
  plain := hplain
  value := hf
  text := by
    intro depth _ layout level t rest hrest ht
    refine (bind_ok (htoken hrest ht)).trans ?_
    rw [hf]
    rfl

lemma recovers_text (k : ℕ) (s : Text) : Decoder.text.Recovers k (.string s) s :=
  recovers_scalar (.string k s) (reads_token_string s) rfl

lemma recovers_flag (k : ℕ) (b : Bool) : flag.Recovers k (.boolean b) b :=
  recovers_scalar (.boolean k b) (reads_token_boolean b) rfl

lemma recovers_count (k : ℕ) {n : ℕ} (h : n < Nat.pow 2 64) :
    count.Recovers k (.number (.int (.ofNat n))) n :=
  recovers_scalar (.count k h) (reads_token_count h) rfl

lemma recovers_tag (k : ℕ) {names : List (Text × α)} {name : Text}
    (h : names.lookup name = some a) : (tag names).Recovers k (.string name) a := by
  refine recovers_scalar (.string k name) (reads_token_string name) ?_
  show variantOf names name = .ok a
  rw [variantOf, h]

/-- A name stands for its variant as a string. -/
lemma recovers_variant (k : ℕ) {names : List (Text × α)} {name : Text}
    (h : names.lookup name = some a) : (variant names).Recovers k (.string name) a where
  plain := .string k name
  value := by
    show variantOf names name = .ok a
    rw [variantOf, h]
  text := by
    intro depth hdepth layout level t rest hrest ht
    have hquote := write_string_append layout level name rest
    -- the reader has seen the quote, and leaves it to the reader of the name
    have hskip : skipBlanks ('"' :: (name.flatMap escapedChar ++ '"' :: rest)) =
        write layout level (.string name) ++ rest := hquote.symm
    have htag := (recovers_tag k h).text depth hdepth hrest hskip
    unfold variant
    dsimp only
    rw [ht, hquote]
    exact htag

/-- What may be null is recovered from what is not. -/
lemma Recovers.optional {d : Decoder α} (h : d.Recovers k v a) :
    (Decoder.optional d).Recovers k v (some a) where
  plain := h.plain
  value := by
    have hvalue : (Decoder.optional d).ofValue v = (d.ofValue v).map some := by
      cases h.plain <;> rfl
    rw [hvalue, h.value]
    rfl
  text := by
    intro depth hdepth layout level t rest hrest ht
    have hopens : Opens (write layout level v ++ rest) := (h.plain.opens layout level).append rest
    have hread := h.text depth hdepth hrest (skipBlanks_of_opens hopens)
    obtain ⟨c, s, hs, -, -, hnull⟩ := hopens
    rw [hs] at ht hread
    -- nothing that is recovered begins like null
    unfold Decoder.optional
    dsimp only
    rw [ht]
    split
    · rename_i heq
      exact absurd (List.cons.inj heq).1 hnull
    · rw [hread]
      rfl

/-- A list is recovered from its items. -/
lemma recovers_list {d : Decoder α} {f : α → Json} {as : List α}
    (h : ∀ a ∈ as, d.Recovers k (f a) a) :
    (list d).Recovers (k + 1) (.array (as.map f)) as where
  plain := by
    refine .array fun v hv => ?_
    obtain ⟨a, ha, rfl⟩ := List.mem_map.1 hv
    exact (h a ha).plain
  value := by
    show (as.map f).mapM d.ofValue = .ok as
    induction as with
    | nil => rfl
    | cons a as ih =>
      have hrest := ih fun b hb => h b (List.mem_cons_of_mem a hb)
      rw [List.map_cons, List.mapM_cons, (h a List.mem_cons_self).value, hrest]
      rfl
  text := by
    intro depth hdepth layout level t rest hrest ht
    obtain ⟨depth, rfl⟩ := Nat.exists_eq_add_of_le' (Nat.le_of_add_left_le hdepth)
    obtain ⟨s, hs, htoken⟩ := token_of_array ht
    refine (bind_ok htoken).trans ?_
    exact allItems_of_reads
      (fun a ha => ⟨(h a ha).plain, (h a ha).text depth (Nat.le_of_succ_le_succ hdepth)⟩) hs

/-! ## Records -/

section Records

variable {member : Member σ} {ms : List (Text × Json)} {st st₁ st' : σ}

/-- Members that lead from one state of a record to another, one after the other. -/
inductive Gathers (member : Member σ) (k : ℕ) : List (Text × Json) → σ → σ → Prop where
  | nil (st : σ) : Gathers member k [] st st
  | cons {key : Text} {v : Json} {ms : List (Text × Json)} {st st₁ st₂ : σ} {d : Decoder σ}
    (hmember : member st key = .ok (some d)) (hvalue : d.Recovers k v st₁)
    (hrest : Gathers member k ms st₁ st₂) : Gathers member k ((key, v) :: ms) st st₂

/-- A member that has no value yet. -/
lemma Gathers.once {key : Text} {d : Decoder β} {put : β → σ} {b : β}
    (hmember : member st key = Decoder.once key none d put) (hvalue : d.Recovers k v b)
    (hrest : Gathers member k ms (put b) st') : Gathers member k ((key, v) :: ms) st st' :=
  .cons hmember (hvalue.map put) hrest

lemma Gathers.plain (h : Gathers member k ms st st') : ∀ m ∈ ms, Plain k m.2 := by
  induction h with
  | nil st => simp
  | cons hmember hvalue hrest ih =>
    intro m hm
    rcases List.mem_cons.1 hm with rfl | hm
    · exact hvalue.plain
    · exact ih m hm

/-- Members of a value are taken one by one, as the state leads on. -/
lemma Gathers.foldlM (h : Gathers member k ms st st') :
    ms.foldlM (fun st (key, v) => takeMember member st key v) st = .ok st' := by
  induction h with
  | nil st => rfl
  | @cons key v ms st st₁ st₂ d hmember hvalue hrest ih =>
    have htake : takeMember member st key v = .ok st₁ := by
      rw [takeMember, hmember]
      exact hvalue.value
    show (takeMember member st key v >>= fun st => ms.foldlM _ st) = _
    rw [htake]
    exact ih

/-- Members of a text are taken in the same way. -/
lemma Gathers.takes {depth : ℕ} (hdepth : k ≤ depth) (h : Gathers member k ms st st') :
    Takes (readMember member depth) ms st st' := by
  induction h with
  | nil st => exact .nil st
  | @cons key v ms st st₁ st₂ d hmember hvalue hrest ih =>
    refine .cons (fun layout level rest hrest => ?_) ih
    rw [readMember, hmember]
    exact colon_bind hvalue.plain (hvalue.text depth hdepth) hrest

/-- A record is recovered from its members. -/
lemma recovers_record {shape : Shape} {finish : σ → Except Fault α}
    (h : Gathers member k ms st st') (hfinish : finish st' = .ok a) :
    (record shape member st finish).Recovers (k + 1) (.object ms) a where
  plain := .object h.plain
  value := by
    show (ms.foldlM (fun st (key, v) => takeMember member st key v) st >>= finish) = _
    rw [h.foldlM]
    exact hfinish
  text := by
    intro depth hdepth layout level t rest hrest ht
    obtain ⟨depth, rfl⟩ := Nat.exists_eq_add_of_le' (Nat.le_of_add_left_le hdepth)
    obtain ⟨s, hs, htoken⟩ := token_of_object ht
    have htakes := h.takes (Nat.le_of_succ_le_succ hdepth)
    refine (bind_ok htoken).trans ?_
    refine (bind_ok (allMembers_of_takes htakes hs)).trans ?_
    rw [hfinish]
    rfl

end Records

/-! ## Records with a tag -/

section Tagged

variable {κ : Type} {name : Text} {tag : Decoder κ} {ms : List (Text × Json)}

/-- The members other than the tag are gathered as values, the latest in front. -/
lemma gathers_any {st : Tagged κ} (hname : ∀ m ∈ ms, m.1 ≠ name) (hplain : ∀ m ∈ ms, Plain k m.2) :
    Gathers (Tagged.member name tag) k ms st { st with members := ms.reverse ++ st.members } := by
  induction ms generalizing st with
  | nil => exact .nil st
  | cons m ms ih =>
    obtain ⟨key, v⟩ := m
    have hmember : Tagged.member name tag st key =
        .ok (some (any.map fun v => { st with members := (key, v) :: st.members })) :=
      if_neg (hname (key, v) List.mem_cons_self)
    rw [List.reverse_cons, List.append_assoc]
    refine .cons hmember ((recovers_any (hplain (key, v) List.mem_cons_self)).map _) ?_
    exact ih (fun m hm => hname m (List.mem_cons_of_mem _ hm))
      fun m hm => hplain m (List.mem_cons_of_mem _ hm)

/-- A record with its tag in front is recovered by what the tag stands for. -/
lemma recovers_tagged {expected : Text} {body : κ → Decoder α} {w : Json} {kind : κ}
    (hname : ∀ m ∈ ms, m.1 ≠ name) (htag : tag.Recovers k w kind)
    (hbody : (body kind).Recovers (k + 1) (.object ms) a) :
    (tagged expected name tag body).Recovers (k + 1) (.object ((name, w) :: ms)) a := by
  have hplain : ∀ m ∈ ms, Plain k m.2 := by
    cases hbody.plain with
    | object h => exact h
  have hfirst : Tagged.member name tag {} name =
      Decoder.once name none tag fun kind => { tag := some kind } := if_pos rfl
  have hgathers : Gathers (Tagged.member name tag) k ((name, w) :: ms) {}
      { tag := some kind, members := ms.reverse ++ [] } :=
    .once hfirst htag (gathers_any hname hplain)
  -- in the order in which they were written, the members are what the body decodes
  have hmembers : (body kind).ofValue (.object (ms.reverse ++ []).reverse) = .ok a := by
    rw [List.append_nil, List.reverse_reverse]
    exact hbody.value
  refine ⟨.object hgathers.plain, ?_, ?_⟩
  · show (List.foldlM (fun st (key, v) => takeMember (Tagged.member name tag) st key v) {}
      ((name, w) :: ms) >>= _) = _
    rw [hgathers.foldlM]
    exact hmembers
  · intro depth hdepth layout level t rest hrest ht
    obtain ⟨depth, rfl⟩ := Nat.exists_eq_add_of_le' (Nat.le_of_add_left_le hdepth)
    obtain ⟨s, hs, htoken⟩ := token_of_object ht
    have htakes := hgathers.takes (Nat.le_of_succ_le_succ hdepth)
    refine (bind_ok htoken).trans ?_
    refine (bind_ok (allMembers_of_takes htakes hs)).trans ?_
    show (liftM ((body kind).ofValue (.object (ms.reverse ++ []).reverse)) : Reader α) rest = _
    rw [hmembers]
    rfl

end Tagged

end DialogueScript.Json.Decoder
