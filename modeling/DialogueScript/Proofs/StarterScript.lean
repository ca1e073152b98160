import DialogueScript.Proofs.CollapsedSpace
import DialogueScript.Proofs.Reachability
import DialogueScript.Proofs.TidyScripts
import DialogueScript.Source.Template

/-!
# The starter script can be read

The starter script is read whatever its title is. The title comes twice into the text, raw: into the
header, and into a line of dialogue. It keeps to one line and is trimmed (`inline_templateTitle`),
and no more than that is needed in either place.

What is read is `starter`. It is tidy, and it is written as the very text that it is read from
(`toSource_starter`), so that the theory of written scripts applies to it in both directions.
-/

namespace DialogueScript

open Text Variable

namespace Source

variable {title : Text}

/-! ## The title -/

/-- The title is the writer's text with its white space collapsed and trimmed, if anything is left
of it. -/
lemma templateTitle_eq (title : Text) :
    templateTitle title =
      if trim (collapse title) = [] then "Untitled".toList else trim (collapse title) := by
  have hjoined : trim (collapse title) = joined title := trim_collapse title
  rw [templateTitle, hjoined]
  cases hwords : words title with
  | nil =>
    have hempty : joined title = [] := by
      rw [joined, hwords]
      rfl
    rw [hempty]
    rfl
  | cons w ws =>
    have hne : joined title ≠ [] := joined_ne_nil (by rw [hwords]; exact List.cons_ne_nil w ws)
    rw [if_neg hne, joined, hwords]

/-- A title of two lines, which would be a directive and a fence if they were lines of their own. -/
example : templateTitle "@node\u2003x:\r\n\x60\x60\x60 \x7by\x7d ".toList =
    "@node x: \x60\x60\x60 \x7by\x7d".toList := by decide

/-- The shown title keeps to a line, whatever the given one looks like. -/
lemma inline_templateTitle (title : Text) : Inline (templateTitle title) := by
  rw [templateTitle_eq]
  split
  · exact ⟨rfl, by decide⟩
  · refine ⟨trim_trim _, fun hmem => ?_⟩
    have hspace : '\n' = ' ' := mem_collapse (mem_of_mem_trim hmem) rfl
    cases hspace

/-- The placeholders of the title are those of the writer's text. -/
lemma mentions_templateTitle_iff {n : Text} : Mentions (templateTitle title) n ↔ Mentions title n := by
  rw [templateTitle_eq, ← mentions_trim_collapse_iff (t := title)]
  split
  · rename_i hempty
    have hnone : Mentions ("Untitled".toList ++ []) n ↔ Mentions [] n :=
      mentions_append_left_iff (by decide)
    rwa [hempty]
  · rfl

/-! ## The script -/

/-- The content of the line in which the title is said. -/
def welcome (title : Text) : Text := "Welcome to ".toList ++ title ++ ['.']

/-- The node in which the title is said. -/
def startNode (title : Text) : Node where
  id := startId
  lines := [
    .dialogue (some "Narrator".toList) (welcome title) none,
    .command "set visits = 1".toList none,
    .choice "Where do you want to go?".toList [
      ⟨"Explore".toList, none, some "explore".toList⟩,
      ⟨"Rest".toList, some "visits > 0".toList, some "rest".toList⟩] none]

/-- The nodes behind the first one. -/
def otherNodes : List Node := [
  { id := "explore".toList
    lines := [.dialogue (some "Narrator".toList) "You look around.".toList none]
    jump := some "end".toList },
  { id := "rest".toList
    lines := [
      .input "name".toList "What is your name?".toList none,
      .dialogue (some "Narrator".toList) "Sleep well, \x7bname\x7d.".toList none]
    jump := some "end".toList },
  { id := "end".toList
    lines := [.dialogue (some "Narrator".toList) "The end.".toList none] }]

/-- The starter script with this title. -/
def starter (title : Text) : Script where
  metadata := { title := some title, version := some "1.0".toList }
  nodes := startNode title :: otherNodes
  index := [("end".toList, 3), ("rest".toList, 2), ("explore".toList, 1), (startId, 0)]

lemma assembled_starter (title : Text) : (starter title).Assembled := rfl

lemma nodeIds_starter (title : Text) :
    (starter title).nodeIds = [startId, "explore".toList, "rest".toList, "end".toList] := rfl

/-- The starter script is written as it is given. -/
lemma toSource_starter (title : Text) :
    (starter title).toSource = (templateLines title).flatMap (· ++ ['\n']) := by
  have hend : trimEnd ("> Narrator: Welcome to ".toList ++ title ++ ['.']) =
      "> Narrator: Welcome to ".toList ++ title ++ ['.'] :=
    trimEnd_append_eq_self _ (List.cons_ne_nil _ _) rfl
  have hwelcome : (Line.dialogue (some "Narrator".toList) (welcome title) none).sourceLines =
      ["> Narrator: Welcome to ".toList ++ title ++ ['.']] := congrArg ([·]) hend
  -- the title comes into the header and the first node only
  have hothers : (otherNodes.flatMap fun m => [] :: m.sourceLines) =
      (templateLines []).drop 9 := by decide +kernel
  have hlines : (starter title).writtenLines = templateLines title := by
    rw [Script.writtenLines_of_header rfl]
    unfold starter startNode
    rw [List.flatMap_cons, hothers, Node.sourceLines, List.flatMap_cons, hwelcome]
    rfl
  exact congrArg (List.flatMap (· ++ ['\n'])) hlines

/-! ## Its lines -/

lemma inline_welcome {title : Text} (h : '\n' ∉ title) : Inline (welcome title) where
  trim_eq := by
    have hstart : "Welcome to ".toList = 'W' :: "elcome to ".toList := by decide
    unfold welcome
    rw [trim_eq_self_iff, hstart]
    exact ⟨trimStart_cons_of_not_space rfl,
      trimEnd_append_eq_self _ (List.cons_ne_nil '.' []) rfl⟩
  unbroken := by
    unfold welcome
    simp [h]

lemma not_fence_suffix_welcome (title : Text) : ¬fence <:+ welcome title := by
  rintro ⟨u, hu⟩
  have hlast : (welcome title).getLast? = some '.' := by
    unfold welcome
    exact List.getLast?_concat
  rw [← hu] at hlast
  simp [fence] at hlast

lemma tidy_narration {content : Text} (hcontent : Inline content) (hfence : ¬fence <:+ content) :
    (Line.dialogue (some "Narrator".toList) content none).Tidy := by
  have hclear : ("Narrator".toList.all fun c =>
      decide (c ≠ ':' ∧ c ≠ '[' ∧ c ≠ '(' ∧ c ≠ '{')) = true := by decide
  refine ⟨isCondition_none, fun sp hsp => ?_, .inl ⟨hcontent, hfence, fun hnone => by cases hnone⟩⟩
  cases hsp
  exact ⟨by decide, ⟨rfl, by decide⟩, fun c hc => of_decide_eq_true (List.all_eq_true.1 hclear c hc)⟩

/-- A line that is tidy and no code block. -/
def Plain (l : Line) : Prop := l.Tidy ∧ '\n' ∉ l.content

lemma plain_startNode {title : Text} (h : '\n' ∉ title) :
    ∀ l ∈ (startNode title).lines, Plain l := by
  have hwelcome : Inline (welcome title) := inline_welcome h
  have hguard : IsCondition (some "visits > 0".toList) := by
    intro c hc
    cases hc
    exact ⟨by decide, by decide, by decide⟩
  intro l hl
  rcases List.mem_cons.1 hl with rfl | hl
  · exact ⟨tidy_narration hwelcome (not_fence_suffix_welcome title), hwelcome.unbroken⟩
  rcases List.mem_pair.1 hl with rfl | rfl
  · exact ⟨⟨isCondition_none, rfl, by decide⟩, by decide⟩
  · refine ⟨⟨isCondition_none, ⟨rfl, by decide⟩, ?_, fun o ho => ?_⟩, by decide⟩
    · intro name rest _ _ heq
      cases heq
    · rcases List.mem_pair.1 ho with rfl | rfl
      · exact ⟨by decide, ⟨rfl, by decide⟩, by decide, by decide +kernel, isCondition_none⟩
      · exact ⟨by decide, ⟨rfl, by decide⟩, by decide, by decide +kernel, hguard⟩

lemma plain_otherNodes : ∀ m ∈ otherNodes, ∀ l ∈ m.lines, Plain l := by
  have hnarration {content : Text}
      (h : trim content = content ∧ '\n' ∉ content ∧ ¬fence <:+ content) :
      Plain (.dialogue (some "Narrator".toList) content none) :=
    ⟨tidy_narration ⟨h.1, h.2.1⟩ h.2.2, h.2.1⟩
  have hinput : Plain (.input "name".toList "What is your name?".toList none) := by
    have hword : "name".toList.all isWord = true := by decide
    refine ⟨⟨isCondition_none, by decide, List.all_eq_true.1 hword, by decide, by decide,
      by decide, ?_⟩, by decide⟩
    intro c hc
    cases hc
    decide
  intro m hm
  rcases List.mem_cons.1 hm with rfl | hm
  · exact List.forall_mem_singleton.2 (hnarration (by decide +kernel))
  rcases List.mem_pair.1 hm with rfl | rfl
  · exact List.forall_mem_cons.2
      ⟨hinput, List.forall_mem_singleton.2 (hnarration (by decide +kernel))⟩
  · exact List.forall_mem_singleton.2 (hnarration (by decide +kernel))

/-- Every line of the starter script is tidy, and none of them is a code block. -/
lemma plain_starter {title : Text} (h : '\n' ∉ title) :
    ∀ m ∈ (starter title).nodes, ∀ l ∈ m.lines, Plain l :=
  List.forall_mem_cons.2 ⟨plain_startNode h, plain_otherNodes⟩

/-- The starter script is tidy for every title that keeps to a line. -/
lemma tidy_starter {title : Text} (h : Inline title) : (starter title).Tidy where
  metadata f v hv := by
    cases f with
    | title =>
      cases hv
      exact h
    | version =>
      cases hv
      exact ⟨rfl, by decide⟩
    | author => cases hv
    | autoclear => cases hv
  ids m hm := by
    have hid : ∀ id ∈ (starter title).nodeIds, id ≠ [] ∧ trim id = id ∧ '\n' ∉ id := by
      rw [nodeIds_starter]
      decide
    obtain ⟨hne, htrim, hbreak⟩ := hid m.id (List.mem_map_of_mem hm)
    exact ⟨hne, htrim, hbreak⟩
  lines m hm l hl := (plain_starter h.unbroken m hm l hl).1

/-- Two variables are its own; the others are those of the title. -/
lemma mem_variableNames_starter {title n : Text} : n ∈ (starter title).variableNames ↔
    n = "name".toList ∨ n = "visits".toList ∨ Mentions title n := by
  have hnames : ((starter title).allLines.flatMap fun line =>
      line.texts.flatMap placeholderNames ++ line.assigned) =
        ((placeholderNames (welcome title) ++ []) ++ []) ++ ["visits".toList, "name".toList] := rfl
  have hwelcome : Mentions (welcome title) n ↔ Mentions title n := by
    unfold welcome
    rw [mentions_append_right_iff (by decide), mentions_append_left_iff (by decide)]
  rw [Script.variableNames, mem_sortNames, hnames, List.append_nil, List.append_nil,
    List.mem_append, mem_placeholderNames_iff, hwelcome, List.mem_pair, or_comm,
    or_comm (a := n = "visits".toList), or_assoc]

/-! ## Its flow -/

/-- The options of the start node lead to both nodes behind it, and these lead to the end. -/
lemma isReachable_starter {title id : Text} (h : id ∈ (starter title).nodeIds) :
    (starter title).isReachable id = true := by
  have hedges : (starter title).flowEdges = [
      ⟨startId, "explore".toList, .option⟩, ⟨startId, "rest".toList, .option⟩,
      ⟨"explore".toList, "end".toList, .jump⟩, ⟨"rest".toList, "end".toList, .jump⟩] := rfl
  have hexplore : (starter title).Leads startId "explore".toList :=
    ⟨⟨startId, "explore".toList, .option⟩, by rw [hedges]; decide, rfl, rfl⟩
  have hrest : (starter title).Leads startId "rest".toList :=
    ⟨⟨startId, "rest".toList, .option⟩, by rw [hedges]; decide, rfl, rfl⟩
  have hend : (starter title).Leads "explore".toList "end".toList :=
    ⟨⟨"explore".toList, "end".toList, .jump⟩, by rw [hedges]; decide, rfl, rfl⟩
  rw [Script.isReachable_iff (assembled_starter title).closedGraph]
  rw [nodeIds_starter] at h
  rcases List.mem_cons.1 h with rfl | h
  · exact .refl
  rcases List.mem_cons.1 h with rfl | h
  · exact .single hexplore
  rcases List.mem_pair.1 h with rfl | rfl
  · exact .single hrest
  · exact .tail (.single hexplore) hend

/-! ## Reading it -/

/-- The starter script is read back from its own source, as it is tidy and assembled. -/
lemma parse_starter {title : Text} (h : Inline title) :
    parse {} (starter title).toSource = .ok (starter title) := by
  have hgraph : (starter title).ClosedGraph := (assembled_starter title).closedGraph
  have htidy : (starter title).Tidy := tidy_starter h
  have henclosed : ∀ m ∈ (starter title).nodes, ∀ l ∈ m.lines, l.Enclosed := fun m hm l hl =>
    Line.enclosed_of_unbroken (plain_starter h.unbroken m hm l hl).2
  have hsame : (starter title).nodes.map Node.reread = (starter title).nodes := rfl
  rw [Script.parse_toSource_eq_ok_iff hgraph (htidy.normal hgraph henclosed) htidy.metadata, hsame]
  exact assembled_starter title

/-- The starter script can be read, whatever its title is. Its title is what the writer gave, with its
white space collapsed and trimmed, or a stand-in. All of its nodes can be reached, and its variables
are two of its own and those of the title. It is written as the text it was read from, and read from
it again. -/
theorem parse_template (title : Text) : ∃ s shown,
    parse {} (template title) = .ok s ∧
      shown = (if trim (collapse title) = [] then "Untitled".toList else trim (collapse title)) ∧
      s.metadata.title = some shown ∧
      s.nodeIds = ["start".toList, "explore".toList, "rest".toList, "end".toList] ∧
      (∀ id ∈ s.nodeIds, s.isReachable id = true) ∧ s.unreachable = [] ∧
      (∀ n, n ∈ s.variableNames ↔ n = "name".toList ∨ n = "visits".toList ∨ Mentions shown n) ∧
      (∀ n, Mentions shown n ↔ Mentions title n) ∧ s.variableNames.Pairwise (· < ·) ∧
      s.toSource = template title ∧ parse {} s.toSource = .ok s := by
  let shown : Text := templateTitle title
  have hinline : Inline shown := inline_templateTitle title
  have hread : parse {} (starter shown).toSource = .ok (starter shown) := parse_starter hinline
  have hwritten : (starter shown).toSource = template title := toSource_starter shown
  have hreachable : ∀ id ∈ (starter shown).nodeIds, (starter shown).isReachable id = true :=
    fun _ => isReachable_starter
  have hunreachable : (starter shown).unreachable = [] := by
    rw [Script.unreachable_eq (assembled_starter shown).closedGraph, List.filter_eq_nil_iff]
    intro id hid
    rw [hreachable id hid]
    decide
  exact ⟨starter shown, shown, by rw [← hwritten]; exact hread, templateTitle_eq title, rfl,
    nodeIds_starter shown, hreachable, hunreachable, fun _ => mem_variableNames_starter,
    fun _ => mentions_templateTitle_iff, pairwise_sortNames _, hwritten, hread⟩

end Source

end DialogueScript
