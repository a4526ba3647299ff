import Mathlib
import Colorimetry.Command.Answer
import Colorimetry.Proofs.Binary32.Quotients

/-!
# The steps of a table

A table is answered in one expression, and what that expression does in which order is not to be
seen: whether a single row is refused before or after a sample has been computed, and what becomes of
the number of the last row where there is none. So the table is made once more, step by step. A step
notes each point whose sample it computes, and the number before zero is a fault of its own
(`Fault.underflow`), apart from the failures of a query.

A row computes one sample, at its point, and cannot underflow, since there is a row
(`runFrom_row`). Hence the rows of a table are those of `Curve.tabulate`, for every number of rows
and for none (`runFrom_rows`), and the steps come to what `answerGamma` answers
(`exists_answerGamma_eq`). With at least two rows, and under any rounding, what comes out spans the
unit interval.
-/

namespace Colorimetry.Command

open Transfer (Curve Direction evenlySpaced RoundsBelow)

namespace Tabulation

/-! ### Steps -/

/-- Why a table is not finished. -/
inductive Fault where
  /-- The query fails. -/
  | failed (cause : Failure)
  /-- There is no number before zero. -/
  | underflow

/-- A computation that may stop, and that notes the points whose samples are computed. -/
abbrev Steps (α β : Type) := ExceptT Fault (StateM (List α)) β

section Steps

variable {α β γ : Type}

/-- What a computation comes to, and all points that have been noted at its end, behind some that
were noted before. -/
def Steps.runFrom (s : Steps α β) (noted : List α) : Except Fault β × List α :=
  (ExceptT.run s).run noted

/-- A step that may fail, and computes no sample. -/
def Steps.attempt (r : Except Failure β) : Steps α β := ExceptT.mk (pure (r.mapError .failed))

/-- The number before another one. -/
def predecessor : ℕ → Steps α ℕ
  | 0 => throw .underflow
  | n + 1 => return n

variable [Scalar α] [Elementary α] (c : Curve α) (ofCount : ℕ → α)

/-- A sample is computed, and its point is noted. -/
def sample (x : α) : Steps α (α × α) := do
  modify (· ++ [x])
  return (x, c.apply x)

/-- A row of a table of `n` rows. -/
def row (n i : ℕ) : Steps α (α × α) := do
  let last ← predecessor n
  sample c (ofCount i / ofCount last)

/-- The rows of a table, one after the other. -/
def rows (n : ℕ) : Steps α (List (α × α)) := (List.range n).mapM (row c ofCount n)

/-- **A table, step by step**: the number of rows is looked at first, then the name, and then the
rows are made. -/
def table (name : String) (direction : Direction) (n : ℕ) :
    Steps α (TransferFunction × List (α × α)) := do
  if n = 1 then throw (.failed .singleSample)
  let transfer ← .attempt ((TransferFunction.ofName name).mapError (.unknownCurve .table name))
  let table ← rows (transfer.curve direction) ofCount n
  return (transfer, table)

/-! ### Runs -/

omit [Scalar α] [Elementary α] in
/-- A computation goes on behind a step that has succeeded. -/
theorem Steps.runFrom_bind_of_ok {s : Steps α β} {noted noted' : List α} {b : β}
    (hs : s.runFrom noted = (.ok b, noted')) (f : β → Steps α γ) :
    (s >>= f).runFrom noted = (f b).runFrom noted' := by
  change (match s.runFrom noted with | (x, noted') => ExceptT.bindCont f x noted') = _
  rw [hs]
  rfl

/-- A row and its point. -/
theorem runFrom_row {n i : ℕ} (hi : i < n) (noted : List α) :
    (row c ofCount n i).runFrom noted =
      (.ok (ofCount i / ofCount (n - 1), c.apply (ofCount i / ofCount (n - 1))),
        noted ++ [ofCount i / ofCount (n - 1)]) := by
  obtain ⟨m, rfl⟩ : ∃ m, n = m + 1 := ⟨n - 1, by omega⟩
  rfl

/-- Rows are made one after the other. -/
theorem runFrom_mapM_row {n : ℕ} (is : List ℕ) (his : ∀ i ∈ is, i < n) (noted : List α) :
    Steps.runFrom (is.mapM (row c ofCount n)) noted =
      (.ok (is.map fun i => (ofCount i / ofCount (n - 1), c.apply (ofCount i / ofCount (n - 1)))),
        noted ++ is.map fun i => ofCount i / ofCount (n - 1)) := by
  induction is generalizing noted with
  | nil =>
    rw [List.mapM_nil, List.map_nil, List.map_nil, List.append_nil]
    rfl
  | cons i is ih =>
    have hrow := runFrom_row c ofCount (his i List.mem_cons_self) noted
    have hrest := ih (fun j hj => his j (List.mem_cons_of_mem i hj))
      (noted ++ [ofCount i / ofCount (n - 1)])
    rw [List.mapM_cons, Steps.runFrom_bind_of_ok hrow, Steps.runFrom_bind_of_ok hrest,
      List.append_assoc]
    rfl

/-- **The rows of a table**, for every number of rows. -/
theorem runFrom_rows (n : ℕ) (noted : List α) :
    (rows c ofCount n).runFrom noted =
      (.ok (c.tabulate ofCount n), noted ++ evenlySpaced ofCount n) := by
  rw [rows, runFrom_mapM_row c ofCount _ (fun i hi => List.mem_range.mp hi), Curve.tabulate,
    evenlySpaced, List.map_map]
  rfl

/-- A single row is refused before anything else. -/
theorem runFrom_table_one (name : String) (direction : Direction) (noted : List α) :
    (table ofCount name direction 1).runFrom noted = (.error (.failed .singleSample), noted) :=
  rfl

/-- A name that is not known is refused before any row is made. -/
theorem runFrom_table_of_error {name : String} {e : LookupError}
    (hname : TransferFunction.ofName name = .error e) (direction : Direction) {n : ℕ} (hn : n ≠ 1)
    (noted : List α) :
    (table ofCount name direction n).runFrom noted =
      (.error (.failed (.unknownCurve .table name e)), noted) := by
  unfold table
  rw [if_neg hn, hname]
  rfl

/-- **A table** of a name that is known. -/
theorem runFrom_table_of_ok {name : String} {transfer : TransferFunction}
    (hname : TransferFunction.ofName name = .ok transfer) (direction : Direction) {n : ℕ}
    (hn : n ≠ 1) (noted : List α) :
    (table ofCount name direction n).runFrom noted =
      (.ok (transfer, (transfer.curve direction).tabulate ofCount n),
        noted ++ evenlySpaced ofCount n) := by
  have hrows := runFrom_rows (transfer.curve direction) ofCount n noted
  unfold table
  rw [if_neg hn, hname]
  exact Steps.runFrom_bind_of_ok hrows fun table => pure (transfer, table)

end Steps

/-! ### Answers -/

/-- **What is answered for a table** is what its steps come to, and they come to a table or to the
failure of a query. -/
theorem exists_answerGamma_eq (asJson : Bool) (name : String) (direction : Direction) (n : ℕ) :
    ∃ r : Except Failure (TransferFunction × List (Float32 × Float32)),
      ((table Number.float32OfNat name direction n).runFrom []).1 = r.mapError .failed ∧
        answerGamma asJson name direction n =
          Console.attempt r >>= fun t => answerWith asJson (.curve ⟨t.1, direction, t.2⟩) := by
  unfold answerGamma
  by_cases hn : n = 1
  · subst hn
    exact ⟨.error .singleSample, rfl, rfl⟩
  · rw [if_neg hn]
    cases hname : TransferFunction.ofName name with
    | error e =>
      refine ⟨.error (.unknownCurve .table name e), ?_, rfl⟩
      rw [runFrom_table_of_error _ hname direction hn]
      rfl
    | ok transfer =>
      refine ⟨.ok (transfer, (transfer.curve direction).tabulate Number.float32OfNat n), ?_, rfl⟩
      rw [runFrom_table_of_ok _ hname direction hn]
      rfl

end Tabulation

section Main

open Tabulation

variable {α K : Type} [Scalar α] [Elementary α] [Field K] [LinearOrder K] [IsStrictOrderedRing K]

/-- **A table spans the unit interval**, and its arithmetic does not fail. Its steps never ask for the
number before zero, and the answer is what they come to. A single row is refused before any sample
is computed, no rows make an empty table, and from two rows on, under any rounding, the points run
from zero to one in order, each of them beside the value of the curve there. Binary32 is such a
rounding for as many rows as can be counted with sixty-four bits. -/
theorem table_spans_unit (value : α → Option K) (ofCount : ℕ → α) (name : String)
    (direction : Direction) :
    (∀ (asJson : Bool) (n : ℕ), ∃ r : Except Failure (TransferFunction × List (Float32 × Float32)),
      ((table Number.float32OfNat name direction n).runFrom []).1 = r.mapError .failed ∧
        answerGamma asJson name direction n =
          Console.attempt r >>= fun t => answerWith asJson (.curve ⟨t.1, direction, t.2⟩)) ∧
      (table ofCount name direction 1).runFrom [] = (.error (.failed .singleSample), []) ∧
      (∀ transfer, TransferFunction.ofName name = .ok transfer →
        (table ofCount name direction 0).runFrom [] = (.ok (transfer, []), []) ∧
          ∀ (n : ℕ) (conversion division : K → K), 2 ≤ n →
            RoundsBelow value ofCount conversion division n →
              ∃ rows, (table ofCount name direction n).runFrom [] =
                  (.ok (transfer, rows), rows.map Prod.fst) ∧
                (transfer.curve direction).Spans value n rows) ∧
      ∀ n ≤ 2 ^ 64, RoundsBelow Binary32.value Number.float32OfNat Binary32.rounded
        Binary32.rounded n := by
  refine ⟨fun asJson n => exists_answerGamma_eq asJson name direction n,
    runFrom_table_one ofCount name direction [], fun transfer hname => ⟨?_, ?_⟩,
    fun n hn => Binary32.roundsBelow_float32 hn⟩
  · exact runFrom_table_of_ok ofCount hname direction (by decide) []
  · intro n conversion division hn hrounds
    refine ⟨(transfer.curve direction).tabulate ofCount n, ?_,
      (transfer.curve direction).spans_tabulate hrounds hn⟩
    rw [runFrom_table_of_ok ofCount hname direction (by omega), Curve.tabulate, List.map_map,
      List.nil_append]
    exact congrArg (Prod.mk _) (List.map_id _).symm

/-- A table in binary32 in which two rows have the same number. -/
theorem table_spans_unit_of_equal_numbers :
    Number.float32OfNat (2 ^ 24 + 1) = Number.float32OfNat (2 ^ 24) ∧
      ∃ rows, (table Number.float32OfNat "sRGB" .encode (2 ^ 24 + 3)).runFrom [] =
          (.ok (TransferFunction.srgb, rows), rows.map Prod.fst) ∧
        (TransferFunction.srgb.curve .encode).Spans Binary32.value (2 ^ 24 + 3) rows := by
  obtain ⟨-, -, hok, hrounds⟩ :=
    table_spans_unit Binary32.value Number.float32OfNat "sRGB" .encode
  exact ⟨by decide +kernel,
    (hok .srgb rfl).2 _ _ _ (by norm_num) (hrounds _ (by norm_num))⟩

end Main

end Colorimetry.Command
