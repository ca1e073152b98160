import DialogueScript.Codec.Findings
import DialogueScript.Codec.Script
import DialogueScript.Proofs.ClosedGraph
import DialogueScript.Proofs.Decoding

/-!
# Values recovered from their JSON forms

Every type that has a JSON form is recovered from it: what the form leaves out, an absent text or a
header without fields, is what a decoder takes a missing member for. A script goes through its
header and its nodes, from which it is assembled as it was before (`load_toJsonText`).
-/

namespace DialogueScript

open Json Decoder

/-- The decoder takes the JSON form `v` for `a`, as a value, and as a text in either layout. -/
def Json.Decoder.Inverts {α : Type} (d : Decoder α) (v : Json) (a : α) : Prop :=
  d.ofValue v = .ok a ∧ ∀ layout, d.run (write layout 0 v) = .ok a

section Members

variable {α β σ κ : Type} {d : Decoder α} {k : ℕ} {v : Json} {a : α}

lemma Json.Decoder.Recovers.inverts (h : d.Recovers k v a) (hk : k ≤ maxDepth) : d.Inverts v a :=
  ⟨h.value, h.run hk⟩

/-- An optional text is gathered from its member, or left out of the state that it would fill. -/
lemma gathers_optional {member : Member σ} {ms : List (Text × Json)} {st' : σ} {key : Text}
    {value : Option Text} (fill : Option (Option Text) → σ)
    (hmember : member (fill none) key =
      Decoder.once key none (.optional .text) fun t => fill (some t))
    (hrest : Gathers member k ms (fill (value.map some)) st') :
    Gathers member k (optionalMember key value ++ ms) (fill none) st' := by
  cases value with
  | none => exact hrest
  | some t => exact .once hmember (recovers_text k t).optional hrest

lemma gathers_last {member : Member σ} {key : Text} {value : Option Text}
    (fill : Option (Option Text) → σ)
    (hmember : member (fill none) key =
      Decoder.once key none (.optional .text) fun t => fill (some t)) :
    Gathers member k (optionalMember key value) (fill none) (fill (value.map some)) := by
  rw [← List.append_nil (optionalMember key value)]
  exact gathers_optional fill hmember (.nil _)

/-- A record that keeps a table of its members gathers each of them once. -/
lemma gathers_table [BEq κ] [LawfulBEq κ] {member : Member (List (κ × β))} {d : Decoder β}
    {key : κ → Text} {form : κ × β → Json} {entries seen : List (κ × β)}
    (hmember : ∀ c seen, member seen (key c) =
      Decoder.once (key c) (seen.lookup c) d fun b => (c, b) :: seen)
    (hform : ∀ e ∈ entries, d.Recovers k (form e) e.2)
    (hnodup : (entries.map Prod.fst).Nodup) (hnew : ∀ e ∈ entries, seen.lookup e.1 = none) :
    Gathers member k (entries.map fun e => (key e.1, form e)) seen (entries.reverse ++ seen) := by
  induction entries generalizing seen with
  | nil => exact .nil seen
  | cons e entries ih =>
    obtain ⟨hfirst, hnodup⟩ := List.nodup_cons.1 hnodup
    have hmember : member seen (key e.1) =
        Decoder.once (key e.1) none d fun b => (e.1, b) :: seen := by
      rw [hmember, hnew e List.mem_cons_self]
    rw [List.map_cons, List.reverse_cons, List.append_assoc]
    refine .once hmember (hform e List.mem_cons_self) (ih ?_ hnodup ?_)
    · exact fun e' he' => hform e' (List.mem_cons_of_mem e he')
    · intro e' he'
      have hother : e'.1 ≠ e.1 := by
        intro heq
        apply hfirst
        rw [← heq]
        exact List.mem_map_of_mem he'
      rw [List.lookup_cons, beq_false_of_ne hother]
      exact hnew e' (List.mem_cons_of_mem e he')

end Members

/-! ## Options and lines -/

/-- An option is recovered from its text, and from its condition and target where it has them. -/
lemma ChoiceOption.recovers (o : ChoiceOption) : ChoiceOption.decoder.Recovers 1 o.toJson o := by
  obtain ⟨text, condition, target⟩ := o
  have hmembers : Gathers OptionFields.member 0
      (("text".toList, .string text) ::
        (optionalMember "condition".toList condition ++ optionalMember "target".toList target))
      {} ⟨some text, condition.map some, target.map some⟩ := by
    refine .once rfl (recovers_text 0 text) ?_
    refine gathers_optional (fun c => (⟨some text, c, none⟩ : OptionFields)) rfl ?_
    exact gathers_last (fun t => (⟨some text, condition.map some, t⟩ : OptionFields)) rfl
  refine recovers_record hmembers ?_
  cases condition <;> cases target <;> rfl

namespace Line

/-- The members of a line other than its type. -/
def members (l : Line) : List (Text × Json) :=
  l.ownMembers.1 ++ ("content".toList, .string l.content) ::
    (l.ownMembers.2 ++ optionalMember "condition".toList l.condition)

lemma key_of_mem_optionalMember {key : Text} {value : Option Text} {m : Text × Json}
    (h : m ∈ optionalMember key value) : m.1 = key := by
  obtain ⟨t, -, rfl⟩ := List.mem_map.1 h
  rfl

/-- No other member takes the place of the type. -/
lemma key_ne_type (l : Line) : ∀ m ∈ l.members, m.1 ≠ "type".toList := by
  have hown : (∀ m ∈ l.ownMembers.1, m.1 ≠ "type".toList) ∧
      ∀ m ∈ l.ownMembers.2, m.1 ≠ "type".toList := by
    cases l with
    | dialogue speaker content condition =>
      refine ⟨fun m hm => ?_, fun m hm => (by cases hm)⟩
      rw [key_of_mem_optionalMember hm]
      decide
    | command content condition => exact ⟨fun m hm => (by cases hm), fun m hm => (by cases hm)⟩
    | choice content options condition =>
      refine ⟨fun m hm => (by cases hm), fun m hm => ?_⟩
      rw [List.mem_singleton.1 hm]
      show "options".toList ≠ "type".toList
      decide
    | input name content condition =>
      refine ⟨fun m hm => ?_, fun m hm => (by cases hm)⟩
      rw [List.mem_singleton.1 hm]
      show "variable".toList ≠ "type".toList
      decide
  intro m hm
  rcases List.mem_append.1 hm with hm | hm
  · exact hown.1 m hm
  rcases List.mem_cons.1 hm with rfl | hm
  · show "content".toList ≠ "type".toList
    decide
  rcases List.mem_append.1 hm with hm | hm
  · exact hown.2 m hm
  · rw [key_of_mem_optionalMember hm]
    decide

/-- Every kind of line may end with a condition. -/
lemma gathers_condition (kind : LineKind) (k : ℕ) (condition : Option Text) (st : LineFields)
    (hst : st.condition = none) :
    Gathers (LineFields.member kind) k (optionalMember "condition".toList condition) st
      { st with condition := condition.map some } := by
  obtain ⟨speaker, name, content, options, read⟩ := st
  obtain rfl : read = none := hst
  exact gathers_last (fun c => (⟨speaker, name, content, options, c⟩ : LineFields)) rfl

/-- A line is recovered from its other members, if its kind is known. -/
lemma recovers_members (l : Line) : (decoderOf l.kind).Recovers 3 (.object l.members) l := by
  cases l with
  | dialogue speaker content condition =>
    have hmembers : Gathers (LineFields.member .dialogue) 2
        (optionalMember "speaker".toList speaker ++ ("content".toList, .string content) ::
          optionalMember "condition".toList condition)
        {} ⟨speaker.map some, none, some content, none, condition.map some⟩ := by
      refine gathers_optional (fun t => ({ speaker := t } : LineFields)) rfl ?_
      exact .once rfl (recovers_text 2 content) (gathers_condition _ 2 condition _ rfl)
    refine recovers_record hmembers ?_
    cases speaker <;> cases condition <;> rfl
  | command content condition =>
    have hmembers : Gathers (LineFields.member .command) 2
        (("content".toList, .string content) :: optionalMember "condition".toList condition)
        {} ⟨none, none, some content, none, condition.map some⟩ :=
      .once rfl (recovers_text 2 content) (gathers_condition _ 2 condition _ rfl)
    refine recovers_record hmembers ?_
    cases condition <;> rfl
  | choice content options condition =>
    have hmembers : Gathers (LineFields.member .choice) 2
        (("content".toList, .string content) ::
          ("options".toList, .array (options.map ChoiceOption.toJson)) ::
            optionalMember "condition".toList condition)
        {} ⟨none, none, some content, some options, condition.map some⟩ := by
      refine .once rfl (recovers_text 2 content) ?_
      exact .once rfl (recovers_list fun o _ => o.recovers) (gathers_condition _ 2 condition _ rfl)
    refine recovers_record hmembers ?_
    cases condition <;> rfl
  | input name content condition =>
    have hmembers : Gathers (LineFields.member .input) 2
        (("variable".toList, .string name) :: ("content".toList, .string content) ::
          optionalMember "condition".toList condition)
        {} ⟨none, some name, some content, none, condition.map some⟩ := by
      refine .once rfl (recovers_text 2 name) ?_
      exact .once rfl (recovers_text 2 content) (gathers_condition _ 2 condition _ rfl)
    refine recovers_record hmembers ?_
    cases condition <;> rfl

lemma recovers (l : Line) : decoder.Recovers 3 l.toJson l := by
  refine recovers_tagged l.key_ne_type (recovers_tag 2 ?_) l.recovers_members
  cases l <;> rfl

end Line

/-! ## Headers, nodes and scripts -/

/-- A header is recovered from the fields that are present. -/
lemma Metadata.recovers (m : Metadata) : Metadata.decoder.Recovers 1 m.toJson m := by
  -- only the fields that are present have a member
  let entries : List (Field × Option Text) := m.entries.map fun e => (e.1, some e.2)
  have hkeys : entries.map Prod.fst = Field.all.filter fun f => (m.get f).isSome := by
    obtain ⟨_ | _, _ | _, _ | _, _ | _⟩ := m <;> rfl
  have hnodup : (entries.map Prod.fst).Nodup := by
    rw [hkeys]
    exact List.Nodup.filter _ (by decide)
  have hmember (f : Field) (seen : List (Field × Option Text)) :
      Metadata.member seen f.key =
        Decoder.once f.key (seen.lookup f) (.optional .text) fun t => (f, t) :: seen := by
    cases f <;> rfl
  have hform : ∀ e ∈ entries, (Decoder.optional .text).Recovers 0 (.string (e.2.getD [])) e.2 := by
    intro e he
    obtain ⟨e', -, rfl⟩ := List.mem_map.1 he
    exact (recovers_text 0 e'.2).optional
  have hmembers := gathers_table hmember hform hnodup fun e _ => (rfl : List.lookup e.1 [] = none)
  have hwritten : (entries.map fun e => (e.1.key, Json.string (e.2.getD []))) =
      m.entries.map fun e => (e.1.key, Json.string e.2) := by
    rw [List.map_map]
    rfl
  rw [hwritten] at hmembers
  refine recovers_record hmembers ?_
  obtain ⟨_ | _, _ | _, _ | _, _ | _⟩ := m <;> rfl

lemma Metadata.eq_of_isEmpty {m : Metadata} (h : m.isEmpty = true) : m = {} := by
  have hget (f : Field) : m.get f = none := by
    have hmem : f ∈ Field.all := by cases f <;> decide
    exact Option.map_eq_none_iff.1 (List.filterMap_eq_nil_iff.1 (List.isEmpty_iff.1 h) f hmem)
  obtain ⟨title, author, version, autoclear⟩ := m
  obtain rfl : title = none := hget .title
  obtain rfl : author = none := hget .author
  obtain rfl : version = none := hget .version
  obtain rfl : autoclear = none := hget .autoclear
  rfl

/-- A node is recovered, with its jump where it has one. -/
lemma Node.recovers (n : Node) : Node.decoder.Recovers 5 n.toJson n := by
  obtain ⟨id, lines, jump⟩ := n
  have hmembers : Gathers NodeFields.member 4
      (("id".toList, .string id) :: ("lines".toList, .array (lines.map Line.toJson)) ::
        optionalMember "jump".toList jump)
      {} ⟨some id, some lines, jump.map some⟩ := by
    refine .once rfl (recovers_text 4 id) ?_
    refine .once rfl (recovers_list fun l _ => l.recovers) ?_
    exact gathers_last (fun t => (⟨some id, some lines, t⟩ : NodeFields)) rfl
  refine recovers_record hmembers ?_
  cases jump <;> rfl

namespace Script

/-- The header and the nodes of a script are recovered, the header also where it is left out. -/
lemma recovers_parts (s : Script) : partsDecoder.Recovers 7 s.toJson (s.metadata, s.nodes) := by
  obtain ⟨metadata, nodes, index⟩ := s
  have hnodes (header : Option Metadata) :
      Gathers ScriptFields.member 6 [("nodes".toList, .array (nodes.map Node.toJson))]
        { metadata := header } ⟨header, some nodes⟩ :=
    .once rfl (recovers_list fun n _ => n.recovers) (.nil _)
  by_cases hempty : metadata.isEmpty = true
  · have hwritten : toJson ⟨metadata, nodes, index⟩ =
        .object [("nodes".toList, .array (nodes.map Node.toJson))] := by
      rw [toJson, if_pos hempty]
      rfl
    -- the header that stands for a missing one has no fields either
    rw [hwritten, metadata.eq_of_isEmpty hempty]
    exact recovers_record (hnodes none) rfl
  · have hwritten : toJson ⟨metadata, nodes, index⟩ =
        .object [("metadata".toList, metadata.toJson),
          ("nodes".toList, .array (nodes.map Node.toJson))] := by
      rw [toJson, if_neg hempty]
      rfl
    have hmembers : Gathers ScriptFields.member 6
        [("metadata".toList, metadata.toJson), ("nodes".toList, .array (nodes.map Node.toJson))]
        {} ⟨some metadata, some nodes⟩ :=
      .once rfl (metadata.recovers.mono (by decide)) (hnodes (some metadata))
    rw [hwritten]
    exact recovers_record hmembers rfl

lemma recovers {s : Script} (h : s.Assembled) : decoder.Recovers 7 s.toJson s := by
  have hassemble : assemble s.metadata s.nodes = .ok s := h
  refine s.recovers_parts.check ?_
  dsimp only
  rw [hassemble]

/-- A script is assembled from what its JSON text says as it was before. -/
lemma load_toJsonText {s : Script} (h : s.Assembled) : load s.toJsonText = .ok s := by
  have hparts : partsDecoder.run s.toJsonText = .ok (s.metadata, s.nodes) :=
    s.recovers_parts.run (by decide) .pretty
  have hassemble : assemble s.metadata s.nodes = .ok s := h
  rw [load, hparts]
  dsimp only
  rw [hassemble]

end Script

/-! ## Findings -/

/-- Statistics are recovered as long as their counts fit 64 bits. -/
lemma Stats.recovers (st : Stats) (h : ∀ c, st.get c < Nat.pow 2 64) :
    Stats.decoder.Recovers 1 st.toJson st := by
  let entries : List (Stats.Count × ℕ) := Stats.Count.all.map fun c => (c, st.get c)
  have hmember (c : Stats.Count) (seen : List (Stats.Count × ℕ)) :
      Stats.member seen c.key =
        Decoder.once c.key (seen.lookup c) .count fun n => (c, n) :: seen := by
    cases c <;> rfl
  have hform : ∀ e ∈ entries, Decoder.count.Recovers 0 (countToJson e.2) e.2 := by
    intro e he
    obtain ⟨c, -, rfl⟩ := List.mem_map.1 he
    exact recovers_count 0 (h c)
  have hnodup : (entries.map Prod.fst).Nodup := by
    show Stats.Count.all.Nodup
    decide
  have hmembers := gathers_table hmember hform hnodup fun e _ => (rfl : List.lookup e.1 [] = none)
  exact recovers_record hmembers rfl

lemma FlowEdge.recovers (e : FlowEdge) : FlowEdge.decoder.Recovers 1 e.toJson e := by
  obtain ⟨source, target, kind⟩ := e
  have hmembers : Gathers EdgeFields.member 0
      [("from".toList, .string source), ("to".toList, .string target),
        ("kind".toList, .string kind.name)]
      {} ⟨some source, some target, some kind⟩ := by
    refine .once rfl (recovers_text 0 source) (.once rfl (recovers_text 0 target) ?_)
    exact .once rfl (recovers_variant 0 (by cases kind <;> rfl)) (.nil _)
  exact recovers_record hmembers rfl

lemma Report.recovers (r : Report) : Report.decoder.Recovers 2 r.toJson r := by
  obtain ⟨valid, errors⟩ := r
  have hmembers : Gathers ReportFields.member 1
      [("valid".toList, .boolean valid), ("errors".toList, textsToJson errors)]
      {} ⟨some valid, some errors⟩ := by
    refine .once rfl (recovers_flag 1 valid) ?_
    exact .once rfl (recovers_list fun t _ => recovers_text 0 t) (.nil _)
  exact recovers_record hmembers rfl

/-! ## The round trip -/

/-- Whatever has a JSON form is recovered from it: each script that has been read, and every header,
node, line, option, edge and report, and statistics whose counts fit 64 bits. -/
theorem recovered_from_json :
    (∀ s : Script, ((∃ o text, Source.parse o text = .ok s) ∨ ∃ text, Script.load text = .ok s) →
      Script.load s.toJsonText = .ok s ∧ Script.decoder.Inverts s.toJson s) ∧
    (∀ m : Metadata, Metadata.decoder.Inverts m.toJson m) ∧
    (∀ n : Node, Node.decoder.Inverts n.toJson n) ∧
    (∀ l : Line, Line.decoder.Inverts l.toJson l) ∧
    (∀ o : ChoiceOption, ChoiceOption.decoder.Inverts o.toJson o) ∧
    (∀ st : Stats, (∀ c, st.get c < Nat.pow 2 64) → Stats.decoder.Inverts st.toJson st) ∧
    (∀ e : FlowEdge, FlowEdge.decoder.Inverts e.toJson e) ∧
    ∀ r : Report, Report.decoder.Inverts r.toJson r := by
  refine ⟨fun s hread => ?_, fun m => m.recovers.inverts (by decide),
    fun n => n.recovers.inverts (by decide), fun l => l.recovers.inverts (by decide),
    fun o => o.recovers.inverts (by decide), fun st h => (st.recovers h).inverts (by decide),
    fun e => e.recovers.inverts (by decide), fun r => r.recovers.inverts (by decide)⟩
  have hs : s.Assembled := by
    rcases hread with ⟨o, text, hparse⟩ | ⟨text, hload⟩
    · exact Script.assembled_of_parse hparse
    · exact Script.assembled_of_load hload
  exact ⟨Script.load_toJsonText hs, (Script.recovers hs).inverts (by decide)⟩

/-- A script with an empty header field, a choice without options and a control character, and the
statistics that are largest. -/
theorem recovered_from_json_of_control_character :
    (∃ s, Source.parse {} "# title:\n@node start\n? q\n> \"\\\x01\"".toList = .ok s ∧
      Script.load s.toJsonText = .ok s) ∧
    Stats.decoder.Inverts (Stats.toJson ⟨Nat.pow 2 64 - 1, 0, 10, 0, 0, 0, 0⟩)
      ⟨Nat.pow 2 64 - 1, 0, 10, 0, 0, 0, 0⟩ := by
  have hparse : Source.parse {} "# title:\n@node start\n? q\n> \"\\\x01\"".toList =
      .ok ⟨{ title := some [] }, [⟨startId, [.choice ['q'] [] none,
        .dialogue none ['"', '\\', '\x01', '"'] none], none⟩], [(startId, 0)]⟩ := rfl
  have hcounts : ∀ c, Stats.get ⟨Nat.pow 2 64 - 1, 0, 10, 0, 0, 0, 0⟩ c < Nat.pow 2 64 := by
    intro c
    cases c <;> decide
  obtain ⟨hscript, -, -, -, -, hstats, -⟩ := recovered_from_json
  exact ⟨⟨_, hparse, (hscript _ (Or.inl ⟨_, _, hparse⟩)).1⟩, hstats _ hcounts⟩

end DialogueScript
