import Wayfinding.Message.Response
import Wayfinding.Road.Path

/-!
# Layout of a matrix

The engine finds one result for each pair of a located source and a located target, those of the
first source first. The layout puts them back among the pairs that could not be located.

Main definitions:
* `MatrixCell.ofResult` and `MatrixCell.failed`: the two kinds of cell.
* `Matrix.fill`: the cells of all pairs, source by source.
* `Matrix.assemble`: the cells in rows.
-/

namespace Wayfinding

namespace MatrixCell

/-- The longest duration that a message can carry. -/
def longestDuration : Nat := 2147483647

/-- The cell of a pair without a result. -/
def failed : MatrixCell := ⟨-1, Reachability.unreached.number⟩

/-- Whether a result is a path that takes no longer than the requested duration. -/
def reaches (maxDuration : Nat) (result : TimeDistance) : Bool :=
  decide (result.time < unreachableTime ∧ result.time ≤ maxDuration)

/-- The cell of a result. -/
def ofResult (maxDuration : Nat) (result : TimeDistance) : MatrixCell where
  duration := Int32.ofNat (min result.time longestDuration)
  status := (if reaches maxDuration result then Reachability.reached else .unreached).number

end MatrixCell

namespace Matrix

/-- The cells of one source, and the results that they leave over. Each pair of a located source
with a located target takes one result, as long as there are any. -/
def fillRow (maxDuration : Nat) (source : Bool) :
    List Bool → List TimeDistance → List MatrixCell × List TimeDistance
  | [], results => ([], results)
  | target :: targets, results =>
    match source && target, results with
    | true, result :: results =>
      let row := fillRow maxDuration source targets results
      (.ofResult maxDuration result :: row.1, row.2)
    | _, results =>
      let row := fillRow maxDuration source targets results
      (.failed :: row.1, row.2)

/-- The cells of every source, where `sources` and `targets` tell which of them are located. -/
def fill (maxDuration : Nat) (targets : List Bool) :
    List Bool → List TimeDistance → List (List MatrixCell)
  | [], _ => []
  | source :: sources, results =>
    let row := fillRow maxDuration source targets results
    row.1 :: fill maxDuration targets sources row.2

/-- One row for each source; when several sources share one target, one row for all of them. -/
def ofGrid (sources targets : Nat) (grid : List (List MatrixCell)) : Matrix :=
  if 1 < sources ∧ targets = 1 then ⟨[⟨grid.flatten⟩]⟩ else ⟨grid.map MatrixRow.mk⟩

/-- The matrix of the engine's results, where `sources` and `targets` tell which of them are
located. -/
def assemble (sources targets : List Bool) (results : List TimeDistance) (maxDuration : Nat) :
    Matrix :=
  ofGrid sources.length targets.length (fill maxDuration targets sources results)

end Matrix

end Wayfinding
