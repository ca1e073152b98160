import DialogueScript.Proofs.LineForms

/-!
# Reading the lines that are written

Each line that the printer writes for a normal node is read as what it was written for. Outside of
a code block white space at the end of a line does not matter, and with it neither does the carriage
return that a line can lose (`classify_withoutReturn`).
-/

namespace DialogueScript.Source

open Text Variable

variable {condition : Option Text} {pending : Bool}

/-! ## White space at the end -/

/-- The carriage return that a line can lose is white space, and trimmed off in any case. -/
lemma trim_withoutReturn (raw : Text) : trim raw.withoutReturn = trim raw := by
  obtain ⟨w, hw, hreturn⟩ := eq_withoutReturn_append raw
  have hspace : ∀ c ∈ w, isSpace c = true := by
    rcases hreturn with rfl | rfl
    · simp
    · intro c hc
      rw [List.mem_singleton.1 hc]
      rfl
  conv_rhs => rw [hw]
  exact (trim_append_space _ hspace).symm

/-- A text without white space at its ends has no carriage return to lose. -/
lemma withoutReturn_of_inline {t : Text} (h : Inline t) : t.withoutReturn = t := by
  rw [withoutReturn_eq_self_iff]
  intro a ha
  have hend := trimEnd_eq_self_iff.1 (trim_eq_self_iff.1 h.trim_eq).2
  exact absurd (hend a '\r' ha) (by decide)

/-- Outside of a code block a line is read by what is left of it when it is trimmed. -/
lemma classify_congr {raw raw' : Text} (h : trim raw = trim raw') :
    classify ⟨false, pending⟩ raw = classify ⟨false, pending⟩ raw' := by
  simp only [classify, h, Bool.false_eq_true, if_false]

/-- Outside of a code block a line is read the same with and without a carriage return behind. -/
lemma classify_withoutReturn (raw : Text) :
    classify ⟨false, pending⟩ raw.withoutReturn = classify ⟨false, pending⟩ raw :=
  classify_congr (trim_withoutReturn raw)

lemma classify_trimEnd (raw : Text) :
    classify ⟨false, pending⟩ (trimEnd raw) = classify ⟨false, pending⟩ raw :=
  classify_congr (trim_trimEnd raw)

/-! ## Directives and headers -/

/-- A line that is no fence is read by its trimmed text. -/
lemma classify_of_trim {raw t : Text} (h : trim raw = t) (hfence : fence.isPrefixOf t = false) :
    classify ⟨false, pending⟩ raw = readTrimmed pending t := by
  simp only [classify, h, hfence, Bool.false_eq_true, if_false]

lemma trim_append_inline {a t : Text} (ha : a ≠ []) (hstart : trimStart a = a) (hne : t ≠ [])
    (ht : Inline t) : trim (a ++ t) = a ++ t := by
  have hend : trimEnd t = t := (trim_eq_self_iff.1 ht.trim_eq).2
  rw [trim_append ha hstart]
  exact trimEnd_append_eq_self a hne hend

/-- A written node directive is read as one, with the same id. -/
lemma classify_node {id : Text} (hne : id ≠ []) (hid : Inline id) :
    classify ⟨false, pending⟩ ("@node ".toList ++ id) = .node id := by
  rw [classify_of_trim (trim_append_inline (by decide) rfl hne hid) rfl]
  show SourceLine.node (trim (' ' :: id)) = .node id
  rw [trim_cons_of_space rfl, hid.trim_eq]

/-- A written jump is read as one, with the same target. -/
lemma classify_jump {target : Text} (hne : target ≠ []) (htarget : Inline target) :
    classify ⟨false, pending⟩ ("@jump ".toList ++ target) = .jump target := by
  rw [classify_of_trim (trim_append_inline (by decide) rfl hne htarget) rfl]
  show SourceLine.jump (trim (' ' :: target)) = .jump target
  rw [trim_cons_of_space rfl, htarget.trim_eq]

/-- A written header line is read as one, with the same field and value. The name of a field holds
no colon, so that the value may hold any number of them. -/
lemma classify_header {f : Field} {value : Text} (hvalue : Inline value) :
    classify ⟨false, pending⟩ ('#' :: ' ' :: f.key ++ ':' :: ' ' :: value) = .header f value := by
  have htrim : trim ('#' :: ' ' :: f.key ++ ':' :: ' ' :: value) =
      '#' :: (' ' :: f.key ++ ':' :: trimEnd (' ' :: value)) := by
    have hvisible : trimEnd (':' :: ' ' :: value) = ':' :: trimEnd (' ' :: value) :=
      trimEnd_cons rfl _
    rw [trim_append (List.cons_ne_nil _ _) rfl, trimEnd_append_of_ne_nil, hvisible]
    · rfl
    · rw [hvisible]
      exact List.cons_ne_nil _ _
  have hheader : header? (' ' :: f.key ++ ':' :: trimEnd (' ' :: value)) = some (f, value) := by
    have hcut : cut? ':' (' ' :: f.key ++ ':' :: trimEnd (' ' :: value)) =
        some (' ' :: f.key, trimEnd (' ' :: value)) :=
      cut?_eq_some_iff.2 ⟨rfl, by cases f <;> decide⟩
    have hfind : (Field.all.find? fun g => sameLetters g.key (trim (' ' :: f.key))) = some f := by
      cases f <;> decide
    rw [header?, hcut]
    show (Field.all.find? fun g => sameLetters g.key (trim (' ' :: f.key))).map _ = _
    rw [hfind, trim_trimEnd, trim_cons_of_space rfl, hvalue.trim_eq]
    rfl
  rw [classify_of_trim htrim rfl]
  simp only [readTrimmed, hheader]

/-! ## Content lines -/

lemma guarded_append (condition : Option Text) (t u : Text) :
    guarded condition (t ++ u) = guarded condition t ++ u := by
  cases condition with
  | none => rfl
  | some c => simp [guarded]

/-- The marks that a content line can begin with. -/
def IsMark (k : Char) : Prop := k = '>' ∨ k = '$' ∨ k = '?' ∨ k = '-'

lemma IsMark.isSpace {k : Char} (h : IsMark k) : Text.isSpace k = false := by
  obtain rfl | rfl | rfl | rfl := h <;> rfl

/-- What is in front of the mark of a content line, a guard or nothing, keeps its place; at the end
white space is lost. -/
lemma trim_guarded {k : Char} (h : IsMark k) (body : Text) :
    trim (guarded condition (k :: body)) = guarded condition (k :: trimEnd body) := by
  have hend : trimEnd (k :: body) = k :: trimEnd body := trimEnd_cons h.isSpace body
  cases condition with
  | none =>
    show trim (k :: body) = k :: trimEnd body
    rw [trim_cons_of_not_space h.isSpace, hend]
  | some c =>
    have hsplit (t : Text) : guarded (some c) t = ('[' :: (c ++ [']', ' '])) ++ t := by
      simp [guarded]
    have hstart : trimStart ('[' :: (c ++ [']', ' '])) = '[' :: (c ++ [']', ' ']) := rfl
    have hne : trimEnd (k :: body) ≠ [] := by
      rw [hend]
      exact List.cons_ne_nil _ _
    rw [hsplit, hsplit, trim_append (List.cons_ne_nil _ _) hstart,
      trimEnd_append_of_ne_nil _ hne, hend]

/-- A guarded line is read as its guard and its body. -/
lemma classify_guarded {k : Char} (h : IsMark k) (hguard : IsCondition condition)
    (body : Text) :
    classify ⟨false, pending⟩ (guarded condition (k :: body)) =
      .content condition (readBody pending (k :: trimEnd body)) := by
  cases condition with
  | none =>
    have hfence : fence.isPrefixOf (k :: trimEnd body) = false := by
      obtain rfl | rfl | rfl | rfl := h <;> rfl
    have htrim : trim (guarded none (k :: body)) = k :: trimEnd body := trim_guarded h body
    rw [classify_of_trim htrim hfence]
    obtain rfl | rfl | rfl | rfl := h <;> rfl
  | some c =>
    have hc : IsGuard c := hguard c rfl
    have hbracket : bracketed? (guarded (some c) (k :: trimEnd body)) =
        some (c, ' ' :: k :: trimEnd body) :=
      bracketed?_eq_some_iff.2 ⟨rfl, hc.ne_nil, hc.not_mem⟩
    rw [classify_of_trim (trim_guarded h body) rfl]
    show readContent pending (guarded (some c) (k :: trimEnd body)) = _
    rw [readContent, hbracket]
    obtain rfl | rfl | rfl | rfl := h <;> rfl

lemma classify_marked {k : Char} (h : IsMark k) (body : Text) :
    classify ⟨false, pending⟩ (k :: body) =
      .content none (readBody pending (k :: trimEnd body)) := by
  exact classify_guarded h isCondition_none body

/-- What a dialogue has between its mark and its content. -/
def spoken (speaker : Option Text) (content : Text) : Text :=
  ' ' :: match speaker with
    | some sp => sp ++ ':' :: ' ' :: content
    | none => content

lemma dialogueHead_append (speaker condition : Option Text) (content : Text) :
    dialogueHead speaker condition ++ content =
      guarded condition ('>' :: spoken speaker content) := by
  unfold dialogueHead spoken
  rw [← guarded_append]
  cases speaker <;> simp

/-- A dialogue is read with the speaker that it was written for, or with none. -/
lemma readBody_dialogue {speaker : Option Text} {content : Text} (hcontent : trim content = content)
    (hspeaks : Speaks speaker content) :
    readBody pending ('>' :: trimEnd (spoken speaker content)) = .dialogue speaker content := by
  rw [readBody, trim_trimEnd]
  cases speaker with
  | none =>
    have hbody : trim (spoken none content) = content := (trim_cons_of_space rfl).trans hcontent
    have hnone : speaker? content = none := hspeaks
    rw [hbody, hnone]
  | some sp =>
    rcases hspeaks with ⟨hne, hsp, hcloses⟩
    have hvisible : trimEnd (':' :: ' ' :: content) = ':' :: trimEnd (' ' :: content) :=
      trimEnd_cons rfl _
    have hbody : trim (spoken (some sp) content) = sp ++ ':' :: trimEnd (' ' :: content) := by
      show trim (' ' :: (sp ++ ':' :: ' ' :: content)) = _
      rw [trim_cons_of_space rfl, trim_append hne (trim_eq_self_iff.1 hsp.trim_eq).1,
        trimEnd_append_of_ne_nil, hvisible]
      rw [hvisible]
      exact List.cons_ne_nil _ _
    rw [hbody, speaker?_append hne hsp.trim_eq hcloses, trim_trimEnd, trim_cons_of_space rfl,
      hcontent]

lemma readBody_command {content : Text} (hcontent : trim content = content) :
    readBody pending ('$' :: trimEnd (' ' :: content)) = .command content := by
  rw [readBody, trim_trimEnd, trim_cons_of_space rfl, hcontent]

lemma readBody_prompt {content : Text} (hcontent : trim content = content)
    (hbraced : braced? content = none) :
    readBody pending ('?' :: trimEnd (' ' :: content)) = .prompt content := by
  rw [readBody, trim_trimEnd, trim_cons_of_space rfl, hcontent, hbraced]

/-- An input line is read with its variable and its prompt. The prompt does not begin with a blank,
as the blanks behind the closing brace are no part of it. -/
lemma readBody_input {name content : Text} (h : IsInput name content) (hne : content ≠ []) :
    readBody pending ('?' :: trimEnd (' ' :: '{' :: (name ++ '}' :: ' ' :: content))) =
      .input name content := by
  -- the prompt is not empty, and nothing is trimmed off it
  have hsplit : '{' :: (name ++ '}' :: ' ' :: content) =
      ('{' :: (name ++ ['}', ' '])) ++ content := by
    simp
  have hstart : trimStart ('{' :: (name ++ ['}', ' '])) = '{' :: (name ++ ['}', ' ']) := rfl
  have htrim : trim ('{' :: (name ++ '}' :: ' ' :: content)) =
      '{' :: (name ++ '}' :: ' ' :: content) := by
    rw [hsplit, trim_append (List.cons_ne_nil _ _) hstart]
    exact trimEnd_append_eq_self _ hne h.trimEnd_prompt
  have hskip : skipBlanks (' ' :: content) = content := h.skipBlanks_prompt
  rw [readBody, trim_trimEnd, trim_cons_of_space rfl, htrim,
    braced?_append h.name_ne_nil h.isWord_name]
  show Body.input name (skipBlanks (' ' :: content)) = _
  rw [hskip]

/-- An option line is read as some option. -/
lemma readBody_option {o : ChoiceOption} (h : o.Normal) :
    ∃ o', option? o.toSource = some o' ∧
      readBody true ('-' :: trimEnd (' ' :: o.toSource)) = .option o' := by
  obtain ⟨q, tail, hsplit⟩ := exists_shortestSplit? (ChoiceOption.toSource_ne_nil h)
  have hoption : option? o.toSource = some ⟨trimEnd q, tail.condition, tail.target⟩ := by
    rw [option?, hsplit]
    rfl
  refine ⟨_, hoption, ?_⟩
  rw [readBody, trim_trimEnd, trim_cons_of_space rfl, ChoiceOption.trim_toSource h, hoption]
  rfl

/-! ## Code blocks -/

/-- A line that begins with a fence still does when it is trimmed. -/
lemma fence_prefix_trim {t : Text} (h : fence <+: t) : fence <+: trim t := by
  rcases h with ⟨u, rfl⟩
  have hend : trim (fence ++ u) = fence ++ trimEnd u := by
    rw [trim_append (by decide) rfl]
    show trimEnd ('\x60' :: '\x60' :: '\x60' :: u) = _
    rw [trimEnd_cons rfl, trimEnd_cons rfl, trimEnd_cons rfl]
    rfl
  rw [hend]
  exact List.prefix_append fence _

/-- A captured line is captured again, whatever it looks like outside of a code block. -/
lemma classify_captured {raw : Text} (h : IsCaptured raw) :
    classify ⟨true, pending⟩ raw.withoutReturn = .verbatim raw.withoutReturn := by
  have hfence : fence.isPrefixOf (trim raw.withoutReturn) = false := by
    rw [trim_withoutReturn]
    exact Bool.eq_false_iff.2 fun hstarts => h.not_fence (List.isPrefixOf_iff_prefix.1 hstarts)
  simp only [classify, hfence, Bool.false_eq_true, if_false, if_true]

/-- A code block gives its captured lines back. At least one line comes back. -/
lemma captured?_fenced {ls : List Text} (h : ∀ l ∈ ls, '\n' ∉ l) :
    captured? (fenced ls) = some (if ls = [] then [[]] else ls) := by
  have hafter : after? (fence ++ ['\n']) (fenced ls) =
      some (['\n'].intercalate ls ++ '\n' :: fence) := after?_eq_some_iff.2 rfl
  have hbefore : before? ('\n' :: fence) (['\n'].intercalate ls ++ '\n' :: fence) =
      some (['\n'].intercalate ls) := before?_eq_some_iff.2 rfl
  rw [captured?, hafter, Option.bind_some, hbefore, Option.map_some]
  split
  · rename_i hnil
    rw [hnil]
    rfl
  · rename_i hne
    rw [List.splitOn_intercalate '\n' h hne]

lemma not_mem_of_mem_splitOn {t l : Text} (h : l ∈ t.splitOn '\n') : '\n' ∉ l := by
  induction t generalizing l with
  | nil =>
    rw [List.splitOn_nil, List.mem_singleton] at h
    rw [h]
    exact List.not_mem_nil
  | cons c t ih =>
    rw [List.splitOn_cons_eq_if_modifyHead] at h
    split at h
    · rcases List.mem_cons.1 h with rfl | h
      · exact List.not_mem_nil
      · exact ih h
    · rename_i hc
      obtain ⟨first, rest, hsplit⟩ := List.exists_cons_of_ne_nil (List.splitOn_ne_nil '\n' t)
      rw [hsplit] at h ih
      rcases List.mem_cons.1 h with rfl | h
      · have hfirst : '\n' ∉ first := ih List.mem_cons_self
        simpa [hfirst] using Ne.symm (by simpa using hc : c ≠ '\n')
      · exact ih (List.mem_cons_of_mem first h)

/-- A content that is a code block has at least one captured line. -/
lemma eq_fenced_of_captured? {content : Text} {ls : List Text} (h : captured? content = some ls) :
    content = fenced ls ∧ ls ≠ [] ∧ ∀ l ∈ ls, '\n' ∉ l := by
  obtain ⟨inner, hinner, rfl⟩ := Option.map_eq_some_iff.1 h
  obtain ⟨r, hafter, hbefore⟩ := Option.bind_eq_some_iff.1 hinner
  obtain rfl := before?_eq_some_iff.1 hbefore
  refine ⟨?_, List.splitOn_ne_nil '\n' inner, fun _ => not_mem_of_mem_splitOn⟩
  rw [fenced, List.intercalate_splitOn, after?_eq_some_iff.1 hafter]
  rfl

/-- A content within one line is no code block. -/
lemma captured?_of_inline {t : Text} (h : '\n' ∉ t) : captured? t = none := by
  have hafter : after? (fence ++ ['\n']) t = none := by
    rw [Option.eq_none_iff_forall_ne_some]
    intro r hr
    rw [after?_eq_some_iff.1 hr] at h
    simp at h
  rw [captured?, hafter]
  rfl

/-- The first line of a code block stood in front of the opening fence, if it begins with one. All
other lines have been captured. -/
lemma IsBlock.exists_captured? {speaker leading : Option Text} {raws : List Text}
    (h : IsBlock speaker leading raws) :
    ∃ first rest, captured? (fenced (leading.toList ++ raws)) = some (first :: rest) ∧
      (∀ l ∈ rest, IsCaptured l) ∧
      ((¬fence <+: first ∧ IsCaptured first) ∨
        (fence <+: first ∧ first ≠ [] ∧ Inline first ∧
          Speaks speaker (first ++ ' ' :: fence))) := by
  have hbreak : ∀ l ∈ leading.toList ++ raws, '\n' ∉ l := by
    intro l hl
    rcases List.mem_append.1 hl with hl | hl
    · exact (h.leading l (Option.mem_toList.1 hl)).2.1.unbroken
    · exact (h.captured l hl).unbroken
  rw [captured?_fenced hbreak]
  cases leading with
  | none =>
    cases raws with
    | nil =>
      exact ⟨[], [], rfl, by simp, .inl ⟨by decide, List.not_mem_nil, by decide⟩⟩
    | cons raw rest =>
      have hraw : IsCaptured raw := h.captured raw List.mem_cons_self
      refine ⟨raw, rest, rfl, fun l hl => h.captured l (List.mem_cons_of_mem raw hl), .inl ?_⟩
      refine ⟨?_, hraw⟩
      exact fun hstarts => hraw.not_fence (fence_prefix_trim hstarts)
  | some first =>
    obtain ⟨hne, hinline, hspeaks⟩ := h.leading first rfl
    refine ⟨first, raws, rfl, h.captured, ?_⟩
    -- only a text that begins with a fence has to stay in front of the opening one
    by_cases hstarts : fence <+: first
    · exact .inr ⟨hstarts, hne, hinline, hspeaks⟩
    · exact .inl ⟨hstarts, hinline.unbroken, by rwa [hinline.trim_eq]⟩

/-! ## What is written keeps to its line -/

lemma not_mem_trimEnd {t : Text} (h : '\n' ∉ t) : '\n' ∉ trimEnd t :=
  fun hmem => h ((List.rdropWhile_prefix isSpace t).subset hmem)

lemma not_mem_guarded {t : Text} (hguard : IsCondition condition) (h : '\n' ∉ t) :
    '\n' ∉ guarded condition t := by
  cases condition with
  | none => exact h
  | some c =>
    have hc := (hguard c rfl).unbroken
    simp [guarded, hc, h]

lemma not_mem_dialogueHead {speaker : Option Text} {content : Text}
    (hguard : IsCondition condition) (hspeaks : Speaks speaker fence)
    (h : '\n' ∉ content) : '\n' ∉ dialogueHead speaker condition ++ content := by
  rw [dialogueHead_append]
  refine not_mem_guarded hguard ?_
  unfold spoken
  cases speaker with
  | none => simpa using h
  | some sp =>
    have hsp := hspeaks.2.1.unbroken
    simp [hsp, h]

/-- No line of a written code block breaks: neither the one that opens it, with the speaker and the
guard, nor the captured ones. -/
lemma not_mem_dialogueLines {speaker leading : Option Text} {raws : List Text} {raw : Text}
    (hguard : IsCondition condition) (h : IsBlock speaker leading raws)
    (hraw : raw ∈ dialogueLines (dialogueHead speaker condition)
      (fenced (leading.toList ++ raws))) : '\n' ∉ raw := by
  obtain ⟨first, rest, hcaptured, hrest, hfirst⟩ := h.exists_captured?
  have hbreak : '\n' ∉ first := by
    rcases hfirst with ⟨-, hfirst⟩ | ⟨-, -, hinline, -⟩
    · exact hfirst.unbroken
    · exact hinline.unbroken
  have hbehind : ∀ l ∈ rest ++ [fence], '\n' ∉ l := by
    intro l hl
    rcases List.mem_append.1 hl with hl | hl
    · exact (hrest l hl).unbroken
    · rw [List.mem_singleton.1 hl]
      decide
  simp only [dialogueLines, hcaptured] at hraw
  split at hraw
  · rcases List.mem_cons.1 hraw with rfl | hraw
    · rw [List.append_assoc]
      refine not_mem_dialogueHead hguard h.speaks fun hmem => hbreak ?_
      simpa [fence] using hmem
    · exact hbehind raw hraw
  · rcases List.mem_cons.1 hraw with rfl | hraw
    · exact not_mem_dialogueHead hguard h.speaks (by decide)
    · rcases List.mem_cons.1 hraw with rfl | hraw
      · exact hbreak
      · exact hbehind raw hraw

/-- The written lines of a normal line do not break, so that each is one physical line. -/
lemma not_mem_of_mem_line {l : Line} (h : l.Normal) {raw : Text} (hraw : raw ∈ l.sourceLines) :
    '\n' ∉ raw := by
  cases l with
  | dialogue speaker content condition =>
    rcases h with ⟨hguard, ⟨hcontent, hspeaks, -⟩ | ⟨leading, raws, rfl, hraws⟩⟩
    · have hplain : captured? content = none := captured?_of_inline hcontent.unbroken
      simp only [Line.sourceLines, dialogueLines, hplain, List.mem_singleton] at hraw
      rw [hraw]
      exact not_mem_trimEnd (not_mem_dialogueHead hguard hspeaks.fence hcontent.unbroken)
    · exact not_mem_dialogueLines hguard hraws hraw
  | command content condition =>
    rcases h with ⟨hguard, hcontent⟩
    rw [List.mem_singleton.1 hraw]
    exact not_mem_trimEnd (not_mem_guarded hguard (by simpa using hcontent.unbroken))
  | choice content options condition =>
    rcases h with ⟨hguard, hcontent, -, hoptions⟩
    rcases List.mem_cons.1 hraw with rfl | hraw
    · exact not_mem_trimEnd (not_mem_guarded hguard (by simpa using hcontent.unbroken))
    · obtain ⟨o, ho, rfl⟩ := List.mem_map.1 hraw
      exact not_mem_trimEnd (by simpa using (hoptions o ho).unbroken)
  | input name content condition =>
    rcases h with ⟨hguard, hinput, -⟩
    have hname : '\n' ∉ name := fun hmem => absurd (hinput.isWord_name _ hmem) (by decide)
    rw [List.mem_singleton.1 hraw]
    exact not_mem_trimEnd (not_mem_guarded hguard (by simp [hname, hinput.unbroken]))

/-- The written lines of a normal node do not break. -/
lemma not_mem_of_mem_node {m : Node} (h : m.Normal) {raw : Text} (hraw : raw ∈ m.sourceLines) :
    '\n' ∉ raw := by
  rcases List.mem_cons.1 hraw with rfl | hraw
  · have hid := h.id.unbroken
    simpa using hid
  · rcases List.mem_append.1 hraw with hraw | hraw
    · obtain ⟨l, hl, hmem⟩ := List.mem_flatMap.1 hraw
      exact not_mem_of_mem_line (h.lines l hl) hmem
    · obtain ⟨t, ht, rfl⟩ := List.mem_map.1 hraw
      have htarget := (h.jump t (Option.mem_toList.1 ht)).2.unbroken
      simpa using htarget

end DialogueScript.Source
