import Mathlib
import Colorimetry.Command.Run

/-!
# All or nothing

A query that fails has written nothing. Nothing in `Console` makes it so: what is written before a
step that fails stays written, and half a report would be left on the console if one line were
written too early. So every query is followed through its steps, and each of them turns out to write
a report as the last thing it does, when nothing can fail any more (`Query.writesWhole_answer`).

`Console.WritesWhole` is what is followed: a failure leaves the console as it was, and a success has
written the text of its value. It passes from what follows a silent step to the two together
(`Console.WritesWhole.bind`), and reports have it from their lines.
-/

namespace Colorimetry.Command

open Layout

/-! ### Reports as texts -/

namespace Report

/-- The text of an answer for a reader. -/
def text : Report → String
  | curve r => unlines r.lines
  | value r => unlines r.lines
  | conversion r => unlines r.lines
  | ycbcr r => unlines r.lines
  | surface r => unlines r.lines
  | shader f => f.render
  | shaderLibrary => Glsl.libraryText
  | tables => unlines Tables.lines

/-- **The whole text of an answer** in one of its forms. -/
def render (asJson : Bool) (r : Report) : String :=
  if asJson then r.json.pretty ++ "\n" else r.text

end Report

/-! ### What is written -/

namespace Console

variable {α β : Type}

/-- **A computation that writes all or nothing**: where it fails nothing has been written, and where
it succeeds the text of its value has been. -/
def WritesWhole (render : β → String) (c : Console β) : Prop :=
  ∀ written, (c.runFrom written).2 =
    match (c.runFrom written).1 with
    | .error _ => written
    | .ok b => written ++ render b

/-- A computation that writes nothing at all. -/
abbrev Silent (c : Console α) : Prop := c.WritesWhole fun _ => ""

theorem silent_attempt (r : Except Failure α) : (attempt r).Silent := by
  intro written
  cases r with
  | error failure => rfl
  | ok a => exact String.append_empty.symm

theorem writesWhole_throw (render : β → String) (failure : Failure) :
    (throw failure : Console β).WritesWhole render := fun _ => rfl

/-- A computation goes on behind a step that has succeeded, and ends with one that fails. -/
theorem runFrom_bind (c : Console α) (f : α → Console β) (written : String) :
    (c >>= f).runFrom written =
      match c.runFrom written with
      | (.error failure, written') => (.error failure, written')
      | (.ok a, written') => (f a).runFrom written' := by
  change (match c.runFrom written with | (x, written') => ExceptT.bindCont f x written') = _
  rcases c.runFrom written with ⟨failure | a, written'⟩ <;> rfl

variable {render : β → String}

/-- **Silent steps may stand before.** -/
theorem WritesWhole.bind {c : Console α} {f : α → Console β} (hc : c.Silent)
    (hf : ∀ a, (f a).WritesWhole render) : (c >>= f).WritesWhole render := by
  intro written
  have hsilent := hc written
  rw [runFrom_bind]
  rcases hrun : c.runFrom written with ⟨failure | a, written'⟩
  · rw [hrun] at hsilent
    exact hsilent
  · rw [hrun] at hsilent
    obtain rfl : written' = written := hsilent.trans String.append_empty
    exact hf a written'

/-- A step that may fail. -/
theorem WritesWhole.attempt {r : Except Failure α} {f : α → Console β}
    (hf : ∀ a, (f a).WritesWhole render) : (attempt r >>= f).WritesWhole render :=
  WritesWhole.bind (silent_attempt r) hf

/-- A choice between two computations. -/
theorem WritesWhole.ite {p : Prop} [Decidable p] {c d : Console β} (hc : c.WritesWhole render)
    (hd : d.WritesWhole render) : (if p then c else d).WritesWhole render := by
  split
  · exact hc
  · exact hd

/-! ### Writing -/

/-- Lines are written one behind the other. -/
theorem runFrom_writeLines (lines : List String) (written : String) :
    (writeLines lines).runFrom written = (.ok (), written ++ unlines lines) := by
  induction lines generalizing written with
  | nil => exact congrArg (Prod.mk _) String.append_empty.symm
  | cons line lines ih =>
    have hrest := ih (written ++ (line ++ "\n"))
    rw [String.append_assoc] at hrest
    rw [unlines, List.map_cons, String.join_cons]
    exact hrest

end Console

/-- A report is written as its whole text. -/
theorem Report.runFrom_write (r : Report) (asJson : Bool) (written : String) :
    (r.write asJson).runFrom written = (.ok (), written ++ r.render asJson) := by
  cases asJson with
  | true => rfl
  | false => cases r <;> first | exact Console.runFrom_writeLines .. | rfl

/-! ### Queries -/

section Queries

open Console

variable (asJson : Bool)

/-- Where nothing is left that can fail, a report is written as a whole. -/
theorem writesWhole_answerWith (report : Report) :
    (answerWith asJson report).WritesWhole (Report.render asJson) := by
  intro written
  rw [answerWith, runFrom_bind, report.runFrom_write]
  rfl

theorem writesWhole_answerGamma (name : String) (direction : Transfer.Direction) (samples : Nat) :
    (answerGamma asJson name direction samples).WritesWhole (Report.render asJson) := by
  refine .ite (writesWhole_throw _ _) ?_
  exact .attempt fun transfer => writesWhole_answerWith asJson _

theorem writesWhole_answerEval (name : String) (direction : Transfer.Direction) (input : Float32) :
    (answerEval asJson name direction input).WritesWhole (Report.render asJson) :=
  .attempt fun _ => writesWhole_answerWith asJson _

theorem writesWhole_answerConversion (query : ConversionQuery) :
    (answerConversion asJson query).WritesWhole (Report.render asJson) := by
  unfold answerConversion
  refine .attempt fun source => .attempt fun destination => .attempt fun cone => ?_
  refine .attempt fun matrix => .attempt fun sample => ?_
  exact writesWhole_answerWith asJson _

theorem writesWhole_answerYcbcr (query : YcbcrQuery) :
    (answerYcbcr asJson query).WritesWhole (Report.render asJson) := by
  refine .ite ?_ (writesWhole_throw _ _)
  exact .attempt fun encoding => .attempt fun matrix => writesWhole_answerWith asJson _

theorem writesWhole_answerShader (name : Option String) :
    (answerShader asJson name).WritesWhole (Report.render asJson) := by
  unfold answerShader
  split
  · exact writesWhole_answerWith asJson _
  · split
    · exact writesWhole_answerWith asJson _
    · exact writesWhole_throw _ _

theorem writesWhole_answerSurface (files : FileReader) (query : SurfaceQuery) :
    (answerSurface asJson files query).WritesWhole (Report.render asJson) := by
  unfold answerSurface
  refine .attempt fun description => .attempt fun surface => .attempt fun multiplier => ?_
  refine .attempt fun colorspace => .attempt fun transfer => ?_
  refine .attempt fun decoding => .attempt fun conversion => .attempt fun sample => ?_
  exact writesWhole_answerWith asJson _

/-- **Every query writes its whole report or nothing.** -/
theorem Query.writesWhole_answer (files : FileReader) (query : Query) :
    (query.answer asJson files).WritesWhole (Report.render asJson) := by
  cases query with
  | gamma name direction samples => exact writesWhole_answerGamma asJson name direction samples
  | eval name direction input => exact writesWhole_answerEval asJson name direction input
  | csc query => exact writesWhole_answerConversion asJson query
  | ycbcr query => exact writesWhole_answerYcbcr asJson query
  | shader name => exact writesWhole_answerShader asJson name
  | surface query => exact writesWhole_answerSurface asJson files query
  | list => exact writesWhole_answerWith asJson _

end Queries

/-! ### No report is empty -/

/-- Lines have a text, unless there are none. -/
theorem unlines_cons_ne_empty (line : String) (lines : List String) :
    unlines (line :: lines) ≠ "" := by
  rw [unlines, List.map_cons, String.join_cons]
  simp

theorem Report.render_ne_empty (asJson : Bool) (r : Report) : r.render asJson ≠ "" := by
  cases asJson with
  | true => simp [render]
  | false =>
    cases r with
    | curve r => exact unlines_cons_ne_empty _ _
    | value r => exact unlines_cons_ne_empty _ _
    | conversion r => exact unlines_cons_ne_empty _ _
    | ycbcr r => exact unlines_cons_ne_empty _ _
    | surface r => exact unlines_cons_ne_empty _ _
    | tables => exact unlines_cons_ne_empty _ _
    | shader f => simp [render, text, Glsl.Function.render, Glsl.Ty.render]
    | shaderLibrary => decide +kernel

/-! ### Runs -/

section Runs

variable {files : FileReader} {words : List String}

/-- **A run is one of three**: reading has stopped, or a query has failed and nothing was written, or
a query was answered and its whole report was written. -/
theorem run_cases (files : FileReader) (words : List String) :
    (∃ stop, Invocation.read words = .error stop ∧ run files words = .ofStop stop) ∨
    ∃ invocation, Invocation.read words = .ok invocation ∧
      ((∃ failure,
        ((invocation.query.answer invocation.json files).runFrom "").1 = .error failure ∧
        run files words = .ofFailure "" failure) ∨
      ∃ report, ((invocation.query.answer invocation.json files).runFrom "").1 = .ok report ∧
        run files words = .ofSuccess (report.render invocation.json)) := by
  cases hread : Invocation.read words with
  | error stop => exact .inl ⟨stop, rfl, by rw [run, hread]⟩
  | ok invocation =>
    refine .inr ⟨invocation, rfl, ?_⟩
    have hwhole := invocation.query.writesWhole_answer invocation.json files ""
    rcases hanswer : (invocation.query.answer invocation.json files).runFrom "" with
      ⟨failure | report, written⟩
    · rw [hanswer] at hwhole
      obtain rfl : written = "" := hwhole
      exact .inl ⟨failure, rfl, by simp only [run, hread, hanswer]⟩
    · rw [hanswer] at hwhole
      obtain rfl : written = report.render invocation.json := hwhole.trans String.empty_append
      exact .inr ⟨report, rfl, by simp only [run, hread, hanswer]⟩

/-- A failure has a code of its own. -/
theorem Outcome.code_ofFailure_ne_zero (written : String) (failure : Failure) :
    (Outcome.ofFailure written failure).code ≠ 0 := by
  have hcode (defect : Bool) : (if defect then 101 else 1 : UInt32) ≠ 0 := by
    cases defect <;> decide
  exact hcode failure.isDefect

/-- **The first output holds a whole answer or nothing**, whatever the words of the command line and
whatever is in the files: it is empty exactly if the code is not zero, and else it is the text that
was asked for with the help or the version, or the whole text of the report that answers the query.
-/
theorem run_writes_all_or_nothing (files : FileReader) (words : List String) :
    ((run files words).code ≠ 0 ↔ (run files words).stdout = "") ∧
    ((run files words).stdout = "" ∨
      (Invocation.read words = .error .help ∧ (run files words).stdout = usage) ∨
      (Invocation.read words = .error .version ∧ (run files words).stdout = versionLine) ∨
      ∃ invocation report, Invocation.read words = .ok invocation ∧
        ((invocation.query.answer invocation.json files).runFrom "").1 = .ok report ∧
        (run files words).stdout = report.render invocation.json) := by
  rcases run_cases files words with ⟨stop, hread, hrun⟩ | ⟨invocation, hread, hanswered⟩
  · rw [hrun]
    cases stop with
    | misuse => exact ⟨by decide, .inl rfl⟩
    | help => exact ⟨by decide +kernel, .inr (.inl ⟨hread, rfl⟩)⟩
    | version => exact ⟨by decide, .inr (.inr (.inl ⟨hread, rfl⟩))⟩
  · rcases hanswered with ⟨failure, -, hrun⟩ | ⟨report, hreport, hrun⟩
    · rw [hrun]
      exact ⟨⟨fun _ => rfl, fun _ => Outcome.code_ofFailure_ne_zero "" failure⟩, .inl rfl⟩
    · rw [hrun]
      have hnonempty := report.render_ne_empty invocation.json
      exact ⟨⟨fun hcode => absurd rfl hcode, fun hempty => absurd hempty hnonempty⟩,
        .inr (.inr (.inr ⟨invocation, report, hread, hreport, rfl⟩))⟩

/-- A multiplier so great that the matrix to be inverted underflows ends a run as a defect does. -/
example :
    let outcome := run (fun _ => .error .notFound) ["ycbcr", "--inverse", "-b", "1e15"]
    outcome.code = 101 ∧ outcome.stdout = "" := by
  decide +kernel

end Runs

end Colorimetry.Command
