/-
The text format in which Prometheus reads metrics.

A text is a sequence of lines, each ended by a line feed.  A line is blank, a comment, or a
sample: the name of the metric, labels in braces, a number and perhaps a time.  Inside the
quotes of a label's value a backslash stands before a backslash, before a quote, and before the
`n` of a line feed.  The reader goes through a line character by character.  What
`sampleText` writes is read back (`readLine_sampleText`), whatever the values of the labels
contain.
-/
import RustyGate.Text.Delimited

namespace Exposition

structure Sample where
  name : String
  labels : List (String × String)
  number : String
  time : Option String := none
  deriving DecidableEq, Repr

/-! ## Characters -/

def isBlank (c : Char) : Bool := c == ' ' || c == '\t'

def isNameStart (c : Char) : Bool := c.isAlpha || c == '_' || c == ':'

def isNameChar (c : Char) : Bool := isNameStart c || c.isDigit

def isLabelStart (c : Char) : Bool := c.isAlpha || c == '_'

def isLabelChar (c : Char) : Bool := isLabelStart c || c.isDigit

/-- A word is not empty, and its first character may be of another kind than the rest. -/
def isWord (start rest : Char → Bool) : List Char → Bool
  | [] => false
  | c :: cs => start c && cs.all rest

def isName (start rest : Char → Bool) (name : String) : Bool := isWord start rest name.toList

def isMetricName : String → Bool := isName isNameStart isNameChar

def isLabelName : String → Bool := isName isLabelStart isLabelChar

def isNumberChar (c : Char) : Bool := !isBlank c && c != '\n' && c != '{'

/-- A number ends at the first blank. -/
def isNumber (number : String) : Bool := !number.toList.isEmpty && number.toList.all isNumberChar

/-! ## Reading -/

/-- The name and the labels that have been read. -/
structure Series where
  name : List Char
  labels : List (List Char × List Char) := []
  deriving DecidableEq

/-- Where the reader is in a line, with what it has read. -/
inductive Reader where
  | start
  | comment
  | name (name : List Char)
  | afterName (name : List Char)
  | beforeLabel (series : Series)
  | labelName (series : Series) (label : List Char)
  | afterLabelName (series : Series) (label : List Char)
  | beforeLabelValue (series : Series) (label : List Char)
  | labelValue (series : Series) (label value : List Char)
  | escaped (series : Series) (label value : List Char)
  | afterLabelValue (series : Series)
  | beforeNumber (series : Series)
  | number (series : Series) (number : List Char)
  | afterNumber (series : Series) (number : List Char)
  | time (series : Series) (number time : List Char)
  | afterTime (series : Series) (number time : List Char)
  deriving DecidableEq

def Series.withLabel (series : Series) (label value : List Char) : Series :=
  { series with labels := series.labels ++ [(label, value)] }

def Series.sample (series : Series) (number : List Char) (time : Option (List Char)) : Sample where
  name := String.ofList series.name
  labels := series.labels.map fun label => (String.ofList label.1, String.ofList label.2)
  number := String.ofList number
  time := time.map String.ofList

/-- One character.  There is no reader behind a character that may not stand there. -/
def step : Reader → Char → Option Reader
  | .start, c =>
      if isNameStart c then some (.name [c])
      else if c = '#' then some .comment
      else if isBlank c then some .start else none
  | .comment, _ => some .comment
  | .name name, c =>
      if isNameChar c then some (.name (name ++ [c]))
      else if c = '{' then some (.beforeLabel ⟨name, []⟩)
      else if isBlank c then some (.afterName name) else none
  | .afterName name, c =>
      if isBlank c then some (.afterName name)
      else if c = '{' then some (.beforeLabel ⟨name, []⟩) else some (.number ⟨name, []⟩ [c])
  | .beforeLabel series, c =>
      if isLabelStart c then some (.labelName series [c])
      else if c = '}' then some (.beforeNumber series)
      else if isBlank c then some (.beforeLabel series) else none
  | .labelName series label, c =>
      if isLabelChar c then some (.labelName series (label ++ [c]))
      else if c = '=' then some (.beforeLabelValue series label)
      else if isBlank c then some (.afterLabelName series label) else none
  | .afterLabelName series label, c =>
      if c = '=' then some (.beforeLabelValue series label)
      else if isBlank c then some (.afterLabelName series label) else none
  | .beforeLabelValue series label, c =>
      if c = '"' then some (.labelValue series label [])
      else if isBlank c then some (.beforeLabelValue series label) else none
  | .labelValue series label value, c =>
      if c = '"' then some (.afterLabelValue (series.withLabel label value))
      else if c = '\\' then some (.escaped series label value)
      else if c = '\n' then none
      else some (.labelValue series label (value ++ [c]))
  | .escaped series label value, c =>
      if c = '\\' then some (.labelValue series label (value ++ ['\\']))
      else if c = '"' then some (.labelValue series label (value ++ ['"']))
      else if c = 'n' then some (.labelValue series label (value ++ ['\n'])) else none
  | .afterLabelValue series, c =>
      if c = ',' then some (.beforeLabel series)
      else if c = '}' then some (.beforeNumber series)
      else if isBlank c then some (.afterLabelValue series) else none
  | .beforeNumber series, c =>
      if isBlank c then some (.beforeNumber series) else some (.number series [c])
  | .number series number, c =>
      if isBlank c then some (.afterNumber series number)
      else some (.number series (number ++ [c]))
  | .afterNumber series number, c =>
      if isBlank c then some (.afterNumber series number) else some (.time series number [c])
  | .time series number time, c =>
      if isBlank c then some (.afterTime series number time)
      else some (.time series number (time ++ [c]))
  | .afterTime series number time, c =>
      if isBlank c then some (.afterTime series number time) else none

def run : Reader → List Char → Option Reader
  | reader, [] => some reader
  | reader, c :: cs => (step reader c).bind fun next => run next cs

/-- A line may end after nothing, after a comment, and after a number or a time. -/
def finish : Reader → Option (Option Sample)
  | .start => some none
  | .comment => some none
  | .number series number => some (some (series.sample number none))
  | .afterNumber series number => some (some (series.sample number none))
  | .time series number time => some (some (series.sample number (some time)))
  | .afterTime series number time => some (some (series.sample number (some time)))
  | _ => none

/-- The sample of a line, if it has one. -/
def readLine (line : List Char) : Option (Option Sample) := (run .start line).bind finish

/-- The samples of a text.  Its last line is ended by a line feed, too. -/
def readText (text : List Char) : Option (List Sample) :=
  let cut := Delimited.pieces ['\n'] (List.cons_ne_nil _ _) text
  if cut.2.isEmpty then (cut.1.mapM readLine).map fun samples => samples.flatMap Option.toList
  else none

/-! ## Writing -/

def escapeChar (c : Char) : List Char :=
  if c = '\\' then ['\\', '\\']
  else if c = '\n' then ['\\', 'n']
  else if c = '"' then ['\\', '"']
  else [c]

def escape (value : List Char) : List Char := value.flatMap escapeChar

def labelText (label : String × String) : List Char :=
  label.1.toList ++ '=' :: '"' :: (escape label.2.toList ++ ['"'])

/-- Labels with commas between them. -/
def labelsText : List (String × String) → List Char
  | [] => []
  | label :: labels => labelText label ++ labels.flatMap fun label => ',' :: labelText label

/-- A sample with its labels in braces. -/
def sampleText (name : String) (labels : List (String × String)) (number : String) : List Char :=
  name.toList ++ '{' :: (labelsText labels ++ '}' :: ' ' :: number.toList)

/-- A sample without labels. -/
def plainText (name number : String) : List Char := name.toList ++ ' ' :: number.toList

/-! ## One part after the other -/

theorem run_append (reader : Reader) (before after : List Char) :
    run reader (before ++ after) = (run reader before).bind fun next => run next after := by
  induction before generalizing reader with
  | nil => rfl
  | cons c before ih =>
      show (step reader c).bind _ = ((step reader c).bind _).bind _
      rw [Option.bind_assoc]
      exact Option.bind_congr fun next _ => ih next

/-- Reading on after a part that is read. -/
theorem run_append_of_run {reader next : Reader} {before : List Char}
    (h : run reader before = some next) (after : List Char) :
    run reader (before ++ after) = run next after := by
  rw [run_append, h, Option.bind_some]

theorem run_cons_of_step {reader next : Reader} {c : Char} (h : step reader c = some next)
    (after : List Char) : run reader (c :: after) = run next after := by
  rw [run, h, Option.bind_some]

/-- A part whose characters are all collected. -/
theorem run_collect {collecting : List Char → Reader} {p : Char → Bool}
    (hstep : ∀ read c, p c = true → step (collecting read) c = some (collecting (read ++ [c])))
    {cs : List Char} (hcs : ∀ c ∈ cs, p c = true) (read : List Char) :
    run (collecting read) cs = some (collecting (read ++ cs)) := by
  induction cs generalizing read with
  | nil => rw [List.append_nil]; rfl
  | cons c cs ih =>
      have hrest := ih (fun c' hc' => hcs c' (List.mem_cons_of_mem c hc')) (read ++ [c])
      rw [run_cons_of_step (hstep read c (hcs c List.mem_cons_self)), hrest, List.append_assoc]
      rfl

/-! ## Names -/

variable {start rest : Char → Bool} {labels : List (String × String)} {name number : String}

/-- For a literal, whose characters need not be decoded then. -/
theorem isName_ofList {name : List Char} (h : isWord start rest name = true) :
    isName start rest (String.ofList name) = true := by
  unfold isName
  rwa [String.toList_ofList]

theorem isName_cases {name : String} (h : isName start rest name = true) :
    ∃ c cs, name.toList = c :: cs ∧ start c = true ∧ ∀ c' ∈ cs, rest c' = true := by
  unfold isName at h
  cases hname : name.toList with
  | nil =>
      rw [hname] at h
      cases h
  | cons c cs =>
      rw [hname] at h
      obtain ⟨hc, hcs⟩ := Bool.and_eq_true_iff.mp h
      exact ⟨c, cs, rfl, hc, List.all_eq_true.mp hcs⟩

theorem run_metricName {name : String} (h : isMetricName name = true) :
    run .start name.toList = some (.name name.toList) := by
  obtain ⟨c, cs, hname, hc, hcs⟩ := isName_cases h
  have hstart : step .start c = some (.name [c]) := if_pos hc
  have hstep : ∀ read c, isNameChar c = true → step (.name read) c = some (.name (read ++ [c])) :=
    fun read c hc => if_pos hc
  rw [hname, run_cons_of_step hstart, run_collect hstep hcs]
  rfl

theorem run_labelName {name : String} (h : isLabelName name = true) (series : Series) :
    run (.beforeLabel series) name.toList = some (.labelName series name.toList) := by
  obtain ⟨c, cs, hname, hc, hcs⟩ := isName_cases h
  have hstart : step (.beforeLabel series) c = some (.labelName series [c]) := if_pos hc
  have hstep : ∀ read c, isLabelChar c = true →
      step (.labelName series read) c = some (.labelName series (read ++ [c])) :=
    fun read c hc => if_pos hc
  rw [hname, run_cons_of_step hstart, run_collect hstep hcs]
  rfl

/-! ## Labels -/

variable (series : Series)

/-- An escaped character is read as the character, whatever it is. -/
theorem run_escapeChar (label read : List Char) (c : Char) :
    run (.labelValue series label read) (escapeChar c) =
      some (.labelValue series label (read ++ [c])) := by
  unfold escapeChar
  by_cases hbackslash : c = '\\'
  · subst hbackslash
    rfl
  by_cases hfeed : c = '\n'
  · subst hfeed
    rfl
  by_cases hquote : c = '"'
  · subst hquote
    rfl
  rw [if_neg hbackslash, if_neg hfeed, if_neg hquote]
  have hstep : step (.labelValue series label read) c =
      some (.labelValue series label (read ++ [c])) := by
    show (if c = '"' then _ else _) = _
    rw [if_neg hquote, if_neg hbackslash, if_neg hfeed]
  rw [run_cons_of_step hstep]
  rfl

theorem run_escape (label read value : List Char) :
    run (.labelValue series label read) (escape value) =
      some (.labelValue series label (read ++ value)) := by
  induction value generalizing read with
  | nil => rw [List.append_nil]; rfl
  | cons c value ih =>
      show run _ (escapeChar c ++ escape value) = _
      rw [run_append_of_run (run_escapeChar series label read c), ih, List.append_assoc]
      rfl

/-- The series with labels put behind the ones it has. -/
def Series.withLabels (labels : List (String × String)) : Series :=
  { series with
    labels := series.labels ++ labels.map fun label => (label.1.toList, label.2.toList) }

theorem Series.withLabels_cons (label : String × String) (labels : List (String × String)) :
    (series.withLabel label.1.toList label.2.toList).withLabels labels =
      series.withLabels (label :: labels) := by
  unfold withLabels withLabel
  rw [List.map_cons, List.append_assoc]
  rfl

theorem run_labelText {label : String × String} (h : isLabelName label.1 = true) :
    run (.beforeLabel series) (labelText label) =
      some (.afterLabelValue (series.withLabel label.1.toList label.2.toList)) := by
  -- No character of a name is the sign behind it, so the name ends there.
  have hsign : step (.labelName series label.1.toList) '=' =
      some (.beforeLabelValue series label.1.toList) := rfl
  have hopen : step (.beforeLabelValue series label.1.toList) '"' =
      some (.labelValue series label.1.toList []) := rfl
  unfold labelText
  rw [run_append_of_run (run_labelName h series), run_cons_of_step hsign, run_cons_of_step hopen,
    run_append_of_run (run_escape series label.1.toList [] label.2.toList)]
  rfl

theorem run_moreLabels (h : ∀ label ∈ labels, isLabelName label.1 = true) :
    run (.afterLabelValue series) (labels.flatMap fun label => ',' :: labelText label) =
      some (.afterLabelValue (series.withLabels labels)) := by
  induction labels generalizing series with
  | nil =>
      unfold Series.withLabels
      rw [List.map_nil, List.append_nil]
      rfl
  | cons label labels ih =>
      have hcomma : step (.afterLabelValue series) ',' = some (.beforeLabel series) := rfl
      have hlabel := run_labelText series (h label List.mem_cons_self)
      have hrest := ih (series.withLabel label.1.toList label.2.toList)
        fun other hother => h other (List.mem_cons_of_mem label hother)
      rw [List.flatMap_cons, List.cons_append, run_cons_of_step hcomma,
        run_append_of_run hlabel, hrest, Series.withLabels_cons]

/-- The brace that closes the labels is found behind them. -/
theorem run_labelsText (h : ∀ label ∈ labels, isLabelName label.1 = true) :
    run (.beforeLabel series) (labelsText labels ++ ['}']) =
      some (.beforeNumber (series.withLabels labels)) := by
  cases labels with
  | nil =>
      unfold Series.withLabels
      rw [List.map_nil, List.append_nil]
      rfl
  | cons label labels =>
      have hlabel := run_labelText series (h label List.mem_cons_self)
      have hrest := run_moreLabels (series.withLabel label.1.toList label.2.toList)
        fun other hother => h other (List.mem_cons_of_mem label hother)
      show run _ (labelText label ++ _ ++ ['}']) = _
      rw [List.append_assoc, run_append_of_run hlabel, run_append_of_run hrest,
        Series.withLabels_cons]
      rfl

/-! ## Lines -/

theorem isNumber_cases {number : String} (h : isNumber number = true) :
    ∃ c cs, number.toList = c :: cs ∧ isNumberChar c = true ∧
      ∀ c' ∈ cs, isNumberChar c' = true := by
  unfold isNumber at h
  obtain ⟨hne, hall⟩ := Bool.and_eq_true_iff.mp h
  cases hnumber : number.toList with
  | nil =>
      rw [hnumber] at hne
      cases hne
  | cons c cs =>
      rw [hnumber] at hall
      have hchars := List.all_eq_true.mp hall
      exact ⟨c, cs, rfl, hchars c List.mem_cons_self,
        fun c' hc' => hchars c' (List.mem_cons_of_mem c hc')⟩

theorem not_isBlank_of_isNumberChar {c : Char} (h : isNumberChar c = true) :
    ¬ isBlank c = true := by
  unfold isNumberChar at h
  simp at h
  simp [h]

theorem run_restOfNumber {cs : List Char} (h : ∀ c ∈ cs, isNumberChar c = true)
    (read : List Char) : run (.number series read) cs = some (.number series (read ++ cs)) := by
  have hstep : ∀ read c, isNumberChar c = true →
      step (.number series read) c = some (.number series (read ++ [c])) :=
    fun read c hc => if_neg (not_isBlank_of_isNumberChar hc)
  exact run_collect hstep h read

theorem run_number {number : String} (h : isNumber number = true) :
    run (.beforeNumber series) number.toList = some (.number series number.toList) := by
  obtain ⟨c, cs, hnumber, hc, hcs⟩ := isNumber_cases h
  have hstart : step (.beforeNumber series) c = some (.number series [c]) :=
    if_neg (not_isBlank_of_isNumberChar hc)
  rw [hnumber, run_cons_of_step hstart, run_restOfNumber series hcs]
  rfl

theorem sample_withLabels (name : String) (labels : List (String × String)) (number : String) :
    (Series.withLabels ⟨name.toList, []⟩ labels).sample number.toList none =
      ⟨name, labels, number, none⟩ := by
  have hlabels : (labels.map fun label => (label.1.toList, label.2.toList)).map
      (fun label => (String.ofList label.1, String.ofList label.2)) = labels := by
    rw [List.map_map]
    refine (List.map_congr_left fun label _ => ?_).trans (List.map_id labels)
    show (String.ofList label.1.toList, String.ofList label.2.toList) = label
    rw [String.ofList_toList, String.ofList_toList]
  unfold Series.sample Series.withLabels
  simp only [List.nil_append, hlabels, String.ofList_toList, Option.map_none]

/-- What is written is read, for all values of the labels. -/
theorem readLine_sampleText (hname : isMetricName name = true)
    (hlabels : ∀ label ∈ labels, isLabelName label.1 = true) (hnumber : isNumber number = true) :
    readLine (sampleText name labels number) = some (some ⟨name, labels, number, none⟩) := by
  have hopen : step (.name name.toList) '{' = some (.beforeLabel ⟨name.toList, []⟩) := rfl
  have hblank : step (.beforeNumber (Series.withLabels ⟨name.toList, []⟩ labels)) ' ' =
      some (.beforeNumber (Series.withLabels ⟨name.toList, []⟩ labels)) := rfl
  have htext : sampleText name labels number =
      name.toList ++ ('{' :: ((labelsText labels ++ ['}']) ++ ' ' :: number.toList)) := by
    rw [List.append_assoc]
    rfl
  unfold readLine
  rw [htext, run_append_of_run (run_metricName hname), run_cons_of_step hopen,
    run_append_of_run (run_labelsText _ hlabels), run_cons_of_step hblank, run_number _ hnumber]
  show some (some (Series.sample _ _ none)) = _
  rw [sample_withLabels]

theorem readLine_plainText (hname : isMetricName name = true) (hnumber : isNumber number = true) :
    readLine (plainText name number) = some (some ⟨name, [], number, none⟩) := by
  obtain ⟨c, cs, htext, hc, hcs⟩ := isNumber_cases hnumber
  have hblank : step (.name name.toList) ' ' = some (.afterName name.toList) := rfl
  have hstart : step (.afterName name.toList) c = some (.number ⟨name.toList, []⟩ [c]) := by
    have hbrace : c ≠ '{' := by
      rintro rfl
      exact absurd hc (by decide)
    show (if isBlank c then _ else _) = _
    rw [if_neg (not_isBlank_of_isNumberChar hc), if_neg hbrace]
  unfold readLine plainText
  rw [run_append_of_run (run_metricName hname), run_cons_of_step hblank, htext,
    run_cons_of_step hstart, run_restOfNumber _ hcs, List.singleton_append, ← htext]
  exact congrArg (fun sample => some (some sample)) (sample_withLabels name [] number)

theorem readLine_comment (rest : List Char) : readLine ('#' :: rest) = some none := by
  have hcomment : ∀ cs, run .comment cs = some .comment := by
    intro cs
    induction cs with
    | nil => rfl
    | cons c cs ih => exact ih
  have hstart : step .start '#' = some .comment := rfl
  unfold readLine
  rw [run_cons_of_step hstart, hcomment]
  rfl

/-! ## Texts -/

theorem readText_nil : readText [] = some [] := by
  unfold readText
  rw [Delimited.pieces_of_cut_none _ (by decide)]
  rfl

/-- A line and the lines behind it. -/
theorem readText_line {line text : List Char} {sample : Option Sample} {samples : List Sample}
    (hfeed : '\n' ∉ line) (hline : readLine line = some sample)
    (htext : readText text = some samples) :
    readText (line ++ '\n' :: text) = some (sample.toList ++ samples) := by
  unfold readText at htext ⊢
  rw [Delimited.pieces_of_cut_some _ (Delimited.cut_singleton hfeed text)]
  dsimp only at htext ⊢
  split at htext
  · rename_i hrest
    obtain ⟨read, hread, rfl⟩ := Option.map_eq_some_iff.mp htext
    rw [if_pos hrest, List.mapM_cons, hline, hread]
    rfl
  · cases htext

/-- The text is read as the samples, whatever lines stand behind it. -/
def Reads (text : List Char) (samples : List Sample) : Prop :=
  ∀ rest more, readText rest = some more → readText (text ++ rest) = some (samples ++ more)

theorem Reads.nil : Reads [] [] := fun _ _ h => h

theorem Reads.append {first second : List Char} {samples samples' : List Sample}
    (hfirst : Reads first samples) (hsecond : Reads second samples') :
    Reads (first ++ second) (samples ++ samples') := by
  intro rest more hrest
  rw [List.append_assoc, List.append_assoc]
  exact hfirst _ _ (hsecond rest more hrest)

theorem reads_line {line : List Char} {sample : Option Sample} (hfeed : '\n' ∉ line)
    (hline : readLine line = some sample) : Reads (line ++ ['\n']) sample.toList := by
  intro rest more hrest
  rw [List.append_assoc]
  exact readText_line hfeed hline hrest

theorem Reads.readText {text : List Char} {samples : List Sample} (h : Reads text samples) :
    readText text = some samples := by
  have hall := h [] [] readText_nil
  rwa [List.append_nil, List.append_nil] at hall

/-! ## Line feeds -/

theorem not_mem_of_forall {p : Char → Bool} {cs : List Char} (h : ∀ c ∈ cs, p c = true)
    (hfeed : p '\n' = false) : '\n' ∉ cs := by
  intro hmem
  rw [h _ hmem] at hfeed
  cases hfeed

theorem feed_not_mem_name {name : String} (h : isName start rest name = true)
    (hstart : start '\n' = false) (hrest : rest '\n' = false) :
    '\n' ∉ name.toList := by
  obtain ⟨c, cs, hname, hc, hcs⟩ := isName_cases h
  rw [hname, List.mem_cons, not_or]
  refine ⟨?_, not_mem_of_forall hcs hrest⟩
  rintro rfl
  rw [hc] at hstart
  cases hstart

theorem feed_not_mem_number {number : String} (h : isNumber number = true) :
    '\n' ∉ number.toList := by
  unfold isNumber at h
  have hall := List.all_eq_true.mp (Bool.and_eq_true_iff.mp h).2
  exact not_mem_of_forall hall (by decide)

/-- A line feed is escaped. -/
theorem feed_not_mem_escape (value : List Char) : '\n' ∉ escape value := by
  intro hmem
  obtain ⟨c, _, hc⟩ := List.mem_flatMap.mp hmem
  unfold escapeChar at hc
  split at hc
  · exact absurd hc (by decide)
  split at hc
  · exact absurd hc (by decide)
  split at hc
  · exact absurd hc (by decide)
  rename_i hfeed _
  exact hfeed (List.mem_singleton.mp hc).symm

theorem feed_not_mem_labelText {label : String × String} (h : isLabelName label.1 = true) :
    '\n' ∉ labelText label := by
  have hname := feed_not_mem_name h (by decide) (by decide)
  have hvalue := feed_not_mem_escape label.2.toList
  unfold labelText
  simp [hname, hvalue]

theorem feed_not_mem_sampleText (hname : isMetricName name = true)
    (hlabels : ∀ label ∈ labels, isLabelName label.1 = true) (hnumber : isNumber number = true) :
    '\n' ∉ sampleText name labels number := by
  have hfirst := feed_not_mem_name hname (by decide) (by decide)
  have hlast := feed_not_mem_number hnumber
  have hmiddle : '\n' ∉ labelsText labels := by
    cases labels with
    | nil => exact List.not_mem_nil
    | cons label labels =>
        have hlabel := feed_not_mem_labelText (hlabels label List.mem_cons_self)
        have hrest : ∀ other ∈ labels, '\n' ∉ labelText other := fun other hother =>
          feed_not_mem_labelText (hlabels other (List.mem_cons_of_mem label hother))
        unfold labelsText
        simp only [List.mem_append, hlabel, List.mem_flatMap, List.mem_cons, false_or]
        rintro ⟨other, hother, hcomma | hmem⟩
        · exact absurd hcomma (by decide)
        · exact hrest other hother hmem
  unfold sampleText
  simp [hfirst, hmiddle, hlast]

theorem feed_not_mem_plainText (hname : isMetricName name = true) (hnumber : isNumber number = true)
   : '\n' ∉ plainText name number := by
  have hfirst := feed_not_mem_name hname (by decide) (by decide)
  have hlast := feed_not_mem_number hnumber
  unfold plainText
  simp [hfirst, hlast]

end Exposition
