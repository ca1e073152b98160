import DialogueScript.Proofs.ClosedGraph
import DialogueScript.Proofs.Rereading

/-!
# Writing a script and reading it again

A written script is read as its header and its nodes read again (`parse_toSource_eq_ok_iff`). Two
things can come back in another form:

* a captured line that ends in a carriage return loses it to the line ending;
* an option whose text can begin the tail that is written behind it is split earlier
  (`ChoiceOption.Respells`).

A script that has been read comes back equal if, and only if, it has neither
(`parse_toSource_iff`).
-/

namespace DialogueScript

open Text Source

/-! ## What is read back as it is written -/

/-- A line that is read back as it is written: no captured line of a code block ends in a carriage
return, and every option respells. -/
def Line.Respells : Line → Prop
  | .dialogue _ content _ =>
    ∀ captured, captured? content = some captured → ∀ raw ∈ captured, raw.getLast? ≠ some '\r'
  | .choice _ options _ => ∀ o ∈ options, o.Respells
  | _ => True

lemma map_eq_self_iff {α : Type} {f : α → α} {xs : List α} :
    xs.map f = xs ↔ ∀ x ∈ xs, f x = x := by
  have hid := List.map_inj_left (f := f) (g := id) (l := xs)
  rwa [List.map_id] at hid

lemma fenced_withoutReturn_eq_iff {ls : List Text} (hne : ls ≠ []) (hbreak : ∀ l ∈ ls, '\n' ∉ l) :
    fenced (ls.map withoutReturn) = fenced ls ↔ ∀ l ∈ ls, l.getLast? ≠ some '\r' := by
  have hkept : ∀ l ∈ ls.map withoutReturn, '\n' ∉ l := by
    intro l hl
    obtain ⟨l', hl', rfl⟩ := List.mem_map.1 hl
    obtain ⟨w, hw, -⟩ := eq_withoutReturn_append l'
    intro hmem
    refine hbreak l' hl' ?_
    rw [hw]
    exact List.mem_append_left w hmem
  have hlines : fenced (ls.map withoutReturn) = fenced ls ↔ ls.map withoutReturn = ls := by
    constructor
    · intro h
      have hcaptured := congrArg captured? h
      rw [captured?_fenced hkept, captured?_fenced hbreak, if_neg hne,
        if_neg (by simpa using hne)] at hcaptured
      exact Option.some.inj hcaptured
    · intro h
      rw [h]
  rw [hlines, map_eq_self_iff]
  apply forall₂_congr
  intro l _
  rw [withoutReturn_eq_self_iff, Ne, List.getLast?_eq_some_iff, not_exists]

lemma ChoiceOption.reread_eq_self_iff {o : ChoiceOption} (h : o.Normal) :
    o.reread = o ↔ o.Respells := by
  rw [← option?_toSource_eq_some_iff h, reread]
  obtain ⟨o', hoption, -⟩ := readBody_option h
  rw [hoption]
  simp

lemma Line.reread_eq_self_iff {l : Line} (h : l.Normal) : l.reread = l ↔ l.Respells := by
  cases l with
  | dialogue speaker content condition =>
    rw [reread]
    cases hcaptured : captured? content with
    | none =>
      apply iff_of_true rfl
      intro captured hsome
      rw [hcaptured] at hsome
      cases hsome
    | some ls =>
      obtain ⟨hcontent, hne, hbreak⟩ := eq_fenced_of_captured? hcaptured
      have hiff := fenced_withoutReturn_eq_iff hne hbreak
      rw [← hcontent] at hiff
      simp [Respells, hcaptured, hiff]
  | command content condition => exact iff_of_true rfl trivial
  | choice content options condition =>
    rcases h with ⟨-, -, -, hoptions⟩
    rw [reread, Respells]
    have hiff : options.map ChoiceOption.reread = options ↔ ∀ o ∈ options, o.Respells := by
      rw [map_eq_self_iff]
      exact forall₂_congr fun o ho => ChoiceOption.reread_eq_self_iff (hoptions o ho)
    simp [hiff]
  | input name content condition => exact iff_of_true rfl trivial

lemma Node.reread_eq_self_iff {n : Node} (h : n.Normal) :
    n.reread = n ↔ ∀ l ∈ n.lines, l.Respells := by
  have hlines : n.reread = n ↔ n.lines.map Line.reread = n.lines := by
    obtain ⟨id, lines, jump⟩ := n
    simp [reread]
  rw [hlines, map_eq_self_iff]
  exact forall₂_congr fun l hl => Line.reread_eq_self_iff (h.lines l hl)

/-! ## The header -/

/-- The fields of a header, set one after the other, make it up again. -/
lemma Metadata.foldl_entries (m : Metadata) :
    m.entries.foldl (fun m (f, v) => m.set f v) {} = m := by
  obtain ⟨title, author, version, autoclear⟩ := m
  cases title <;> cases author <;> cases version <;> cases autoclear <;> rfl

lemma Metadata.mem_entries {m : Metadata} {f : Field} {v : Text} (h : (f, v) ∈ m.entries) :
    m.get f = some v := by
  obtain ⟨g, -, hg⟩ := List.mem_filterMap.1 h
  obtain ⟨w, hw, heq⟩ := Option.map_eq_some_iff.1 hg
  cases heq
  exact hw

/-- Parts with an empty part between each two of them. -/
lemma intercalate_empty (x : List Text) (xs : List (List Text)) :
    [[]].intercalate (x :: xs) = x ++ xs.flatMap ([] :: ·) := by
  induction xs generalizing x with
  | nil => simp
  | cons y ys ih => rw [List.intercalate_cons_cons, ih y]; simp

namespace Script

variable {s : Script}

/-! ## The written text -/

/-- The lines of a written script. -/
def writtenLines (s : Script) : List Text := [[]].intercalate s.sections

lemma writtenLines_of_header (h : s.metadata.isEmpty = false) :
    s.writtenLines = s.metadata.sourceLines ++ s.nodes.flatMap fun m => [] :: m.sourceLines := by
  rw [writtenLines, sections, h, if_neg Bool.false_ne_true, List.singleton_append,
    intercalate_empty, List.flatMap_map]

lemma writtenLines_of_no_header {m : Node} {rest : List Node} (h : s.metadata.isEmpty = true)
    (hnodes : s.nodes = m :: rest) :
    s.writtenLines = m.sourceLines ++ rest.flatMap fun m => [] :: m.sourceLines := by
  rw [writtenLines, sections, h, if_pos rfl, hnodes, List.nil_append, List.map_cons,
    intercalate_empty, List.flatMap_map]

lemma ClosedGraph.exists_nodes_eq_cons (h : s.ClosedGraph) : ∃ m rest, s.nodes = m :: rest := by
  have hstart := h.start
  cases hnodes : s.nodes with
  | nil => simp [nodeIds, hnodes] at hstart
  | cons m rest => exact ⟨m, rest, rfl⟩

/-- The pass takes in the lines of a written script, and makes of them its nodes read again. -/
lemma run_writtenLines (hgraph : s.ClosedGraph) (hnodes : ∀ m ∈ s.nodes, m.Normal)
    (hmetadata : ∀ f v, s.metadata.get f = some v → Inline v) :
    ∃ b, Builder.Run {} 1 (s.writtenLines.map withoutReturn) {} b ∧ b.block = none ∧
      b.metadata = s.metadata ∧ b.settled.committed.nodes = s.nodes.map Node.reread := by
  have hnodup : (s.nodes.map Node.id).Nodup := hgraph.nodup
  cases hheader : s.metadata.isEmpty with
  | false =>
    -- the header comes first, and an empty line in front of each node
    have hyields := Builder.yields_header (b := {}) rfl fun f v hmem =>
      hmetadata f v (Metadata.mem_entries hmem)
    obtain ⟨b₁, hrun, hblock, hsettled⟩ := hyields 1
    have hset : b₁.metadata = s.metadata :=
      (congrArg Builder.metadata hsettled).trans (Metadata.foldl_entries s.metadata)
    have hseen : b₁.seen = [] := congrArg Builder.seen hsettled
    obtain ⟨b₂, hrest, hblock₂, hsame, hread⟩ :=
      Builder.run_nodes hblock hnodes (by rwa [hseen]) _
    refine ⟨b₂, ?_, hblock₂, hsame.trans hset, ?_⟩
    · rw [writtenLines_of_header hheader, List.map_append]
      exact hrun.append hrest
    · rw [hread, hsettled]
      rfl
  | true =>
    obtain ⟨m, rest, hcons⟩ := hgraph.exists_nodes_eq_cons
    -- without a header the first node stands at the very beginning
    have hempty : s.metadata = {} := by
      have hentries := Metadata.foldl_entries s.metadata
      rw [List.isEmpty_iff.1 hheader] at hentries
      exact hentries.symm
    rw [hcons] at hnodup hnodes
    obtain ⟨b₁, hrun, hblock, hsettled⟩ :=
      Builder.yields_node (b := {}) rfl (hnodes m List.mem_cons_self) List.not_mem_nil 1
    have hseen : b₁.seen = [m.id] := congrArg Builder.seen hsettled
    obtain ⟨b₂, hrest, hblock₂, hsame, hread⟩ :=
      Builder.run_nodes hblock (fun r hr => hnodes r (List.mem_cons_of_mem m hr))
        (by rw [hseen]; exact hnodup) _
    refine ⟨b₂, ?_, hblock₂, ?_, ?_⟩
    · rw [writtenLines_of_no_header hheader hcons, List.map_append]
      exact hrun.append hrest
    · rw [hsame, hempty]
      exact congrArg Builder.metadata hsettled
    · rw [hread, hsettled, hcons]
      rfl

lemma mem_writtenLines (hgraph : s.ClosedGraph) {raw : Text} (hraw : raw ∈ s.writtenLines) :
    raw = [] ∨ raw ∈ s.metadata.sourceLines ∨ ∃ m ∈ s.nodes, raw ∈ m.sourceLines := by
  have hbehind {ms : List Node} (hms : ms ⊆ s.nodes)
      (hmem : raw ∈ ms.flatMap fun m => [] :: m.sourceLines) :
      raw = [] ∨ raw ∈ s.metadata.sourceLines ∨ ∃ m ∈ s.nodes, raw ∈ m.sourceLines := by
    obtain ⟨m, hm, hmem⟩ := List.mem_flatMap.1 hmem
    rcases List.mem_cons.1 hmem with hnil | hmem
    · exact .inl hnil
    · exact .inr (.inr ⟨m, hms hm, hmem⟩)
  cases hheader : s.metadata.isEmpty with
  | false =>
    rw [writtenLines_of_header hheader] at hraw
    rcases List.mem_append.1 hraw with hmem | hmem
    · exact .inr (.inl hmem)
    · exact hbehind (List.Subset.refl _) hmem
  | true =>
    obtain ⟨m, rest, hcons⟩ := hgraph.exists_nodes_eq_cons
    rw [writtenLines_of_no_header hheader hcons] at hraw
    rcases List.mem_append.1 hraw with hmem | hmem
    · exact .inr (.inr ⟨m, by rw [hcons]; exact List.mem_cons_self, hmem⟩)
    · exact hbehind (by rw [hcons]; exact List.subset_cons_self m rest) hmem

/-- No line of a written script holds a line feed. -/
lemma not_mem_of_mem_writtenLines (hgraph : s.ClosedGraph) (hnodes : ∀ m ∈ s.nodes, m.Normal)
    (hmetadata : ∀ f v, s.metadata.get f = some v → Inline v) {raw : Text}
    (hraw : raw ∈ s.writtenLines) : '\n' ∉ raw := by
  rcases mem_writtenLines hgraph hraw with rfl | hmem | ⟨m, hm, hmem⟩
  · exact List.not_mem_nil
  · obtain ⟨⟨f, v⟩, hfv, rfl⟩ := List.mem_map.1 hmem
    have hv := (hmetadata f v (Metadata.mem_entries hfv)).unbroken
    have hkey : '\n' ∉ f.key := by cases f <;> decide
    simp [hv, hkey]
  · exact not_mem_of_mem_node (hnodes m hm) hmem

/-- A written script begins with its header or with a node directive. -/
lemma exists_writtenLines_eq_cons (hgraph : s.ClosedGraph) :
    ∃ c t rest, s.writtenLines = (c :: t) :: rest ∧ (c = '#' ∨ c = '@') := by
  cases hheader : s.metadata.isEmpty with
  | false =>
    rw [writtenLines_of_header hheader]
    cases hentries : s.metadata.entries with
    | nil => simp [Metadata.isEmpty, hentries] at hheader
    | cons fv rest =>
      rw [Metadata.sourceLines, hentries]
      exact ⟨'#', _, _, rfl, .inl rfl⟩
  | true =>
    obtain ⟨m, rest, hcons⟩ := hgraph.exists_nodes_eq_cons
    rw [writtenLines_of_no_header hheader hcons]
    exact ⟨'@', _, _, rfl, .inr rfl⟩

/-- The physical lines of a written script. There is no byte order mark in front of them. -/
lemma sourceLines_toSource (hgraph : s.ClosedGraph) (hnodes : ∀ m ∈ s.nodes, m.Normal)
    (hmetadata : ∀ f v, s.metadata.get f = some v → Inline v) :
    sourceLines s.toSource = s.writtenLines.map withoutReturn := by
  have hlines : lines s.toSource = s.writtenLines.map withoutReturn :=
    lines_flatMap fun _ => not_mem_of_mem_writtenLines hgraph hnodes hmetadata
  obtain ⟨c, t, rest, hcons, hc⟩ := exists_writtenLines_eq_cons hgraph
  have hfirst : (withoutReturn (c :: t)).dropWhile (· == byteOrderMark) =
      withoutReturn (c :: t) := by
    have hmark : (c == byteOrderMark) = false := by
      rcases hc with rfl | rfl <;> rfl
    rw [dropWhile_withoutReturn rfl, List.dropWhile_cons, hmark]
    rfl
  rw [sourceLines, hlines, hcons, List.map_cons]
  show (withoutReturn (c :: t)).dropWhile (· == byteOrderMark) :: _ = _
  rw [hfirst]

/-- What is read where a script is written: its header, and its nodes read again. -/
lemma parse_toSource_eq_ok_iff {t : Script} (hgraph : s.ClosedGraph)
    (hnodes : ∀ m ∈ s.nodes, m.Normal) (hmetadata : ∀ f v, s.metadata.get f = some v → Inline v) :
    parse {} s.toSource = .ok t ↔ assemble s.metadata (s.nodes.map Node.reread) = .ok t := by
  obtain ⟨b, hrun, hblock, hheader, hread⟩ := run_writtenLines hgraph hnodes hmetadata
  obtain ⟨log, hadvance⟩ := hrun.advance rfl []
  obtain ⟨log', hfinish⟩ :=
    Builder.finish_of_ignore (o := {}) (b := { b with log := log }) rfl hblock
  have hpass : Source.pass {} s.toSource = .ok { b.settled.committed with log := log' } := by
    rw [Source.pass, sourceLines_toSource hgraph hnodes hmetadata, hadvance]
    exact hfinish
  rw [parse_eq_ok_iff, hpass]
  constructor
  · intro h
    rcases h with ⟨b', hb', hassemble⟩
    cases hb'
    rw [← hread, ← hheader]
    exact hassemble
  · intro h
    refine ⟨_, rfl, ?_⟩
    rw [← hread, ← hheader] at h
    exact h

/-- A script that has been read is read again from what is written of it, equal in every part, if
and only if no captured line of its code blocks ends in a carriage return and every option
respells. -/
theorem parse_toSource_iff (text : Text) (s : Script) (h : parse {} text = .ok s) :
    parse {} s.toSource = .ok s ↔ ∀ n ∈ s.nodes, ∀ l ∈ n.lines, l.Respells := by
  have hassembled : s.Assembled := assembled_of_parse h
  obtain ⟨hnodes, hmetadata⟩ := normal_of_parse h
  rw [parse_toSource_eq_ok_iff hassembled.closedGraph hnodes hmetadata]
  -- assembling keeps the nodes it is given, and the nodes of `s` can be assembled
  have hsame : assemble s.metadata (s.nodes.map Node.reread) = .ok s ↔
      s.nodes.map Node.reread = s.nodes := by
    constructor
    · intro hagain
      exact (assemble_eq_ok_iff.1 hagain).2.1.symm
    · intro hmap
      rw [hmap]
      exact hassembled
  rw [hsame, map_eq_self_iff]
  exact forall₂_congr fun n hn => Node.reread_eq_self_iff (hnodes n hn)

/-- A code block, and an option whose condition was a guard of its line. -/
theorem parse_toSource_of_guarded_option :
    parse {} "# title: T\n@node start\n> A: \x60\x60\x60\n x \n\x60\x60\x60\n? q\n[g] - a -> start".toList =
        .ok ⟨{ title := some ['T'] }, [⟨startId,
          [.dialogue (some ['A']) (fenced [[' ', 'x', ' ']]) none,
            .choice ['q'] [⟨['a'], some ['g'], some startId⟩] none], none⟩], [(startId, 0)]⟩ ∧
      parse {} (toSource ⟨{ title := some ['T'] }, [⟨startId,
        [.dialogue (some ['A']) (fenced [[' ', 'x', ' ']]) none,
          .choice ['q'] [⟨['a'], some ['g'], some startId⟩] none], none⟩], [(startId, 0)]⟩) =
        .ok ⟨{ title := some ['T'] }, [⟨startId,
          [.dialogue (some ['A']) (fenced [[' ', 'x', ' ']]) none,
            .choice ['q'] [⟨['a'], some ['g'], some startId⟩] none], none⟩], [(startId, 0)]⟩ := by
  have hparse : parse {}
      "# title: T\n@node start\n> A: \x60\x60\x60\n x \n\x60\x60\x60\n? q\n[g] - a -> start".toList =
        .ok ⟨{ title := some ['T'] }, [⟨startId,
          [.dialogue (some ['A']) (fenced [[' ', 'x', ' ']]) none,
            .choice ['q'] [⟨['a'], some ['g'], some startId⟩] none], none⟩], [(startId, 0)]⟩ := rfl
  refine ⟨hparse, (parse_toSource_iff _ _ hparse).2 fun n hn l hl => ?_⟩
  cases List.mem_singleton.1 hn
  rcases List.mem_cons.1 hl with rfl | hl
  · intro captured hcaptured raw hraw
    have hlines : captured = [[' ', 'x', ' ']] := (Option.some.inj hcaptured).symm
    rw [hlines] at hraw
    rw [List.mem_singleton.1 hraw]
    decide
  · cases List.mem_singleton.1 hl
    intro o ho
    cases List.mem_singleton.1 ho
    -- the text has no character in front of a bracket or an arrow
    intro p hp
    have hlong (u : Text) (hu : u ≠ []) : ['a'] ≠ p ++ u := by
      intro heq
      have hlen := congrArg List.length heq
      have hppos : 0 < p.length := List.length_pos_iff.2 hp
      have hupos : 0 < u.length := List.length_pos_iff.2 hu
      rw [List.length_append, List.length_singleton] at hlen
      omega
    exact ⟨hlong _ (List.cons_ne_nil _ _), fun d hd => absurd hd (hlong _ (List.cons_ne_nil _ _))⟩

/-- The three ways in which a script does not come back: a captured line ends in a carriage return,
a guard in front of an option becomes a bracket behind its arrow, and the white space that kept a
bracket away from an arrow is no blank. -/
theorem toSource_not_read_back :
    (∃ s, parse {} "@node start\n\x60\x60\x60\na\r\r\n\x60\x60\x60".toList = .ok s ∧
      parse {} s.toSource ≠ .ok s) ∧
    (∃ s, parse {} "@node start\n? q\n[g] - A ->".toList = .ok s ∧ parse {} s.toSource ≠ .ok s) ∧
    (∃ s, parse {} "@node start\n? q\n- A [c]\u00a0-> start".toList = .ok s ∧
      parse {} s.toSource ≠ .ok s) := by
  refine ⟨?_, ?_, ?_⟩
  · let s : Script :=
      ⟨{}, [⟨startId, [.dialogue none (fenced [['a', '\r']]) none], none⟩], [(startId, 0)]⟩
    have hagain : parse {} s.toSource =
        .ok ⟨{}, [⟨startId, [.dialogue none (fenced [['a']]) none], none⟩], [(startId, 0)]⟩ := rfl
    exact ⟨s, rfl, fun h => absurd (Except.ok.inj (hagain.symm.trans h)) (by decide)⟩
  · let s : Script :=
      ⟨{}, [⟨startId, [.choice ['q'] [⟨"A ->".toList, some ['g'], none⟩] none], none⟩],
        [(startId, 0)]⟩
    have hagain : parse {} s.toSource =
        .error ⟨none, .danglingReferences [⟨startId, "[g]".toList, .option⟩]⟩ := rfl
    exact ⟨s, rfl, fun h => nomatch hagain.symm.trans h⟩
  · let s : Script :=
      ⟨{}, [⟨startId, [.choice ['q'] [⟨"A [c]".toList, none, some startId⟩] none], none⟩],
        [(startId, 0)]⟩
    have hagain : parse {} s.toSource =
        .ok ⟨{}, [⟨startId, [.choice ['q'] [⟨['A'], some ['c'], some startId⟩] none], none⟩],
          [(startId, 0)]⟩ := rfl
    exact ⟨s, rfl, fun h => absurd (Except.ok.inj (hagain.symm.trans h)) (by decide)⟩

end Script

end DialogueScript
