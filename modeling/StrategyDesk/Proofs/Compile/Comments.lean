import StrategyDesk.Compile.Code
import StrategyDesk.Proofs.Number.Digits

/-!
# Comments in place of code

Where no code could be generated, the text in its place begins and ends with comments. The message
stands behind the mark of a comment too, but only with its first line: what follows in a message of
several lines is a comment only if it is one by itself.

## Main Definitions

* `LineEnds`, `LineEnds.lines` — what ends a line, and the lines of a text
* `IsComment` — an empty line, or one behind the mark of a comment
* `Error.told?` — what an error was told in words

## Main Statements

* `lines_errorPlaceholder` — the lines of the text in place of code
* `failed_code_commented_iff` — when all of them are comments
* `second_line_uncommented` — they need not be

## Design Notes

Languages differ in the characters that end a line. All that matters is that the line feed does, and
that no character does which ASCII prints.
-/

namespace StrategyDesk

/-! ## Lines -/

/-- The characters that ASCII prints. -/
def IsPrinted (c : Char) : Prop := ' ' ≤ c ∧ c ≤ '~'

instance : DecidablePred IsPrinted := fun _ => inferInstanceAs (Decidable (_ ∧ _))

/-- The characters that end a line. -/
structure LineEnds where
  isEnd : Char → Bool
  lineFeed : isEnd '\n' = true
  printed : ∀ c, IsPrinted c → isEnd c = false

/-- A line is empty, or stands behind the mark of a comment. -/
def IsComment (line : String) : Prop := line = "" ∨ ∃ rest, line = "//" ++ rest

namespace LineEnds

variable (ends : LineEnds)

/-- Line feeds and carriage returns. -/
def standard : LineEnds where
  isEnd c := c == '\n' || c == '\r'
  lineFeed := rfl
  printed c shown := by
    rw [Bool.or_eq_false_iff, beq_eq_false_iff_ne, beq_eq_false_iff_ne]
    constructor <;> (rintro rfl; exact absurd shown (by decide))

/-- The lines of a text, one more than there are ends of lines. -/
def lines (text : String) : List String := (text.toList.splitOnP ends.isEnd).map String.ofList

/-- The text has one line. -/
def OneLine (text : String) : Prop := ∀ c ∈ text.toList, ends.isEnd c = false

theorem oneLine_of_printed {text : String} (printed : text.toList.all (IsPrinted ·) = true) :
    ends.OneLine text :=
  fun c member => ends.printed c (of_decide_eq_true (List.all_eq_true.mp printed c member))

variable {ends}

theorem OneLine.append {a b : String} (one : ends.OneLine a) (one' : ends.OneLine b) :
    ends.OneLine (a ++ b) := by
  intro c member
  rw [String.toList_append] at member
  exact (List.mem_append.mp member).elim (one c) (one' c)

theorem lines_of_oneLine {text : String} (one : ends.OneLine text) : ends.lines text = [text] := by
  rw [lines, List.splitOnP_eq_singleton one, List.map_singleton, String.ofList_toList]

/-- A line feed between two texts divides their lines. -/
theorem lines_append_lineFeed (a b : String) :
    ends.lines (a ++ "\n" ++ b) = ends.lines a ++ ends.lines b := by
  have chars : (a ++ "\n" ++ b).toList = a.toList ++ '\n' :: b.toList := by simp
  rw [lines, chars, List.splitOnP_append_cons _ _ ends.lineFeed, List.map_append]
  rfl

/-- What stands before a text in one line stands before its first line. -/
theorem lines_append {mark : String} (one : ends.OneLine mark) (text : String) :
    ends.lines (mark ++ text) = (ends.lines text).modifyHead (mark ++ ·) := by
  have grown : ∀ chars, (∀ c ∈ chars, ends.isEnd c = false) →
      (chars ++ text.toList).splitOnP ends.isEnd =
        (text.toList.splitOnP ends.isEnd).modifyHead (chars ++ ·) := by
    intro chars
    induction chars with
    | nil =>
        intro _
        exact (congrFun List.modifyHead_id _).symm
    | cons c rest ih =>
        intro free
        rw [List.forall_mem_cons] at free
        rw [List.cons_append, List.splitOnP_cons_eq_if_modifyHead, free.1, ih free.2,
          List.modifyHead_modifyHead]
        rfl
  rw [lines, lines, String.toList_append, grown mark.toList one]
  cases text.toList.splitOnP ends.isEnd with
  | nil => rfl
  | cons first rest => simp [String.ofList_append]

end LineEnds

/-! ## The text in place of code -/

section Placeholder

variable {ends : LineEnds} {compilerUrl : String}

/-- **The lines of the text in place of code.** All lines of the message are among them, but only
the first one behind a mark. -/
theorem lines_errorPlaceholder (message : String) (one : ends.OneLine compilerUrl) :
    ends.lines (errorPlaceholder message compilerUrl) =
      "// Compilation Error:" :: (ends.lines message).modifyHead ("// " ++ ·) ++
        ["", "// Make sure the backend is running at " ++ compilerUrl] := by
  -- The texts around the message are taken apart before any of them is looked into.
  have regroup {first last heading mark advice : String}
      (first_eq : first = heading ++ "\n" ++ mark)
      (last_eq : last = "\n" ++ ("" ++ "\n" ++ advice)) :
      first ++ message ++ last ++ compilerUrl =
        heading ++ "\n" ++
          ((mark ++ message) ++ "\n" ++ ("" ++ "\n" ++ (advice ++ compilerUrl))) := by
    rw [first_eq, last_eq]
    simp only [String.append_assoc]
  have text : errorPlaceholder message compilerUrl =
      "// Compilation Error:" ++ "\n" ++ (("// " ++ message) ++ "\n" ++
        ("" ++ "\n" ++ ("// Make sure the backend is running at " ++ compilerUrl))) :=
    regroup (by decide +kernel) (by decide +kernel)
  have heading : ends.OneLine "// Compilation Error:" := ends.oneLine_of_printed (by decide +kernel)
  have mark : ends.OneLine "// " := ends.oneLine_of_printed (by decide +kernel)
  have advice : ends.OneLine "// Make sure the backend is running at " :=
    ends.oneLine_of_printed (by decide +kernel)
  have nothing : ends.OneLine "" := fun c member => nomatch member
  rw [text, LineEnds.lines_append_lineFeed, LineEnds.lines_append_lineFeed,
    LineEnds.lines_append_lineFeed, LineEnds.lines_of_oneLine heading,
    LineEnds.lines_append mark message, LineEnds.lines_of_oneLine nothing,
    LineEnds.lines_of_oneLine (advice.append one)]
  rfl

/-- The text in place of code is made of comments exactly if the message is after its first line. -/
theorem placeholder_commented_iff (message : String) (one : ends.OneLine compilerUrl) :
    (∀ line ∈ ends.lines (errorPlaceholder message compilerUrl), IsComment line) ↔
      ∀ line ∈ (ends.lines message).tail, IsComment line := by
  have heading : IsComment "// Compilation Error:" := Or.inr ⟨" Compilation Error:", by decide⟩
  have advice : IsComment ("// Make sure the backend is running at " ++ compilerUrl) := by
    refine Or.inr ⟨" Make sure the backend is running at " ++ compilerUrl, ?_⟩
    rw [← String.append_assoc]
    rfl
  have marked (line : String) : IsComment ("// " ++ line) := by
    refine Or.inr ⟨" " ++ line, ?_⟩
    rw [← String.append_assoc]
    rfl
  rw [lines_errorPlaceholder message one, List.cons_append, List.forall_mem_cons,
    List.forall_mem_append, List.forall_mem_cons, List.forall_mem_singleton]
  simp only [heading, advice, true_and, and_true, show IsComment "" from Or.inl rfl]
  cases ends.lines message with
  | nil => exact Iff.rfl
  | cons first rest => simp [marked]

end Placeholder

/-! ## Failed compilations -/

namespace Error

/-- What an error was told in words: that is all of its message, but where a service answers with an
error status and has nothing to say. -/
def told? : Error → Option String
  | remote _ detail => detail.filter fun text => !isBlankText text
  | e => some e.message

/-- An error status without further words is told in one line. -/
theorem oneLine_status (ends : LineEnds) (status : Nat) :
    ends.OneLine s!"Request failed with status {status}" := by
  have words : ends.OneLine "Request failed with status " :=
    ends.oneLine_of_printed (by decide +kernel)
  have digits : ends.OneLine (toString status) := by
    refine ends.oneLine_of_printed (List.all_eq_true.mpr fun c member => decide_eq_true ?_)
    have digit : c.isDigit := isDigit_toDigits status c (by simpa using member)
    have bounds : '0' ≤ c ∧ c ≤ '9' := by
      rw [Char.isDigit, Bool.and_eq_true, decide_eq_true_eq, decide_eq_true_eq] at digit
      exact digit
    exact ⟨Char.le_trans (by decide) bounds.1, Char.le_trans bounds.2 (by decide)⟩
  exact words.append digits

/-- The lines of a message after its first one are those of the words that the error was told. -/
theorem tail_lines_message (ends : LineEnds) (e : Error) :
    (ends.lines e.message).tail = (e.told?.map fun words => (ends.lines words).tail).getD [] := by
  have status (code : Nat) : (ends.lines s!"Request failed with status {code}").tail = [] := by
    rw [LineEnds.lines_of_oneLine (oneLine_status ends code)]
    rfl
  cases e with
  | remote code detail =>
      cases detail with
      | none => exact status code
      | some words =>
          have shown : (remote code (some words)).message =
              if isBlankText words then s!"Request failed with status {code}" else words := rfl
          have told : (remote code (some words)).told? =
              if isBlankText words then none else some words := by
            cases blank : isBlankText words <;> simp [told?, blank]
          rw [shown, told]
          cases isBlankText words with
          | true => exact status code
          | false => rfl
  | _ => rfl

end Error

section Failed

variable {ends : LineEnds} {compilerUrl : String} {graph : Graph} {platform : Platform}
variable {e : Error}

/-- The text in place of code has the message of the error that the compiler service was answered
with. -/
theorem generateCode_of_error {reply : (c : Call) → Reply c}
    (failed : reply (.compile (graph.normalize graph.displayName (some platform.name))
      platform.name) = .error e) :
    ((generateCode compilerUrl graph platform).trace reply).2 =
      errorPlaceholder e.message compilerUrl := by
  simp only [generateCode, bind, pure, Dialogue.bind, Dialogue.question, Dialogue.trace]
  rw [failed]
  rfl

/-- **A failed compilation gives nothing but comments** exactly if the words that the error was told
have, after their first line, only lines that are comments or empty. -/
theorem failed_code_commented_iff (one : ends.OneLine compilerUrl)
    {reply : (c : Call) → Reply c}
    (failed : reply (.compile (graph.normalize graph.displayName (some platform.name))
      platform.name) = .error e) :
    (∀ line ∈ ends.lines ((generateCode compilerUrl graph platform).trace reply).2,
        IsComment line) ↔
      ∀ words, e.told? = some words → ∀ line ∈ (ends.lines words).tail, IsComment line := by
  rw [generateCode_of_error failed, placeholder_commented_iff e.message one,
    Error.tail_lines_message]
  cases e.told? <;> simp

end Failed

/-- The compiler service turns every strategy down. -/
def turnDown (detail : String) (call : Call) : Reply call := .error (.remote 422 (some detail))

/-- A detail of three lines, of which the second is empty and the third a comment. -/
theorem failed_code_commented_threeLines :
    LineEnds.standard.OneLine "http://localhost:8010" ∧
      ∀ line ∈ LineEnds.standard.lines ((generateCode "http://localhost:8010" .initial .mql).trace
        (turnDown "no action node\r\n// add one")).2, IsComment line := by
  have one : LineEnds.standard.OneLine "http://localhost:8010" :=
    LineEnds.standard.oneLine_of_printed (by decide +kernel)
  refine ⟨one, (failed_code_commented_iff one rfl).mpr fun words told => ?_⟩
  have same : words = "no action node\r\n// add one" := by
    have told' : (Error.remote 422 (some "no action node\r\n// add one")).told? =
        some "no action node\r\n// add one" := by decide +kernel
    exact Option.some.inj (told.symm.trans told')
  have rest : (LineEnds.standard.lines words).tail = ["", "// add one"] := by
    rw [same]
    decide +kernel
  rw [rest, List.forall_mem_cons, List.forall_mem_singleton]
  exact ⟨Or.inl rfl, Or.inr ⟨" add one", by decide +kernel⟩⟩

/-- **The text in place of code need not be made of comments.** The second line of a detail stands
in it as it is. -/
theorem second_line_uncommented :
    ¬∀ line ∈ LineEnds.standard.lines
        ((generateCode "http://localhost:8010" .initial .pineScript).trace
          (turnDown "no action node\nadd one")).2, IsComment line := by
  have one : LineEnds.standard.OneLine "http://localhost:8010" :=
    LineEnds.standard.oneLine_of_printed (by decide +kernel)
  have detail : LineEnds.standard.lines "no action node\nadd one" =
      ["no action node", "add one"] := by decide +kernel
  have told : (Error.remote 422 (some "no action node\nadd one")).message =
      "no action node\nadd one" := by decide +kernel
  rw [generateCode_of_error rfl, placeholder_commented_iff _ one, told, detail]
  intro commented
  rcases commented "add one" (List.mem_singleton.mpr rfl) with none | ⟨rest, marked⟩
  · exact absurd none (by decide)
  · have first := congrArg (fun text : String => text.toList.head?) marked
    simp at first

end StrategyDesk
