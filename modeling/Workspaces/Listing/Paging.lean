-- Paging: where a window stands in a listing of a known length.
import Workspaces.Integer.Range

namespace Workspaces

/-! ## Arithmetic in 64 bits -/

/-- Why an operation on signed integers of 64 bits has no result. -/
inductive ArithmeticFault where
  | addOverflow
  | subtractOverflow
  | divideByZero
  | divideOverflow
  deriving DecidableEq, Repr

namespace ArithmeticFault

def message : ArithmeticFault → String
  | addOverflow => "attempt to add with overflow"
  | subtractOverflow => "attempt to subtract with overflow"
  | divideByZero => "attempt to divide by zero"
  | divideOverflow => "attempt to divide with overflow"

end ArithmeticFault

namespace Int64Arithmetic

/-- Whether an integer is one of 64 bits. -/
def fits (n : Int) : Bool := (IntegerRange.signed 64).contains n

def add (a b : Int) : Except ArithmeticFault Int :=
  if fits (a + b) then .ok (a + b) else .error .addOverflow

def subtract (a b : Int) : Except ArithmeticFault Int :=
  if fits (a - b) then .ok (a - b) else .error .subtractOverflow

/-- Division toward zero. -/
def divide (a b : Int) : Except ArithmeticFault Int :=
  if b = 0 then .error .divideByZero
  else if fits (a.tdiv b) then .ok (a.tdiv b)
  else .error .divideOverflow

end Int64Arithmetic

/-! ## Paging -/

structure Paging where
  skip : Int
  limit : Int
  /-- Pages count from one. -/
  page : Int
  totalPages : Int
  hasNext : Bool
  hasPrevious : Bool
  deriving DecidableEq, Repr

namespace Paging

open Int64Arithmetic in
/-- The number of pages that `total` workspaces fill. -/
def pagesFor (limit total : Int) : Except ArithmeticFault Int :=
  if total = 0 then .ok 0
  else do
    let sum ← add total limit
    let last ← subtract sum 1
    divide last limit

open Int64Arithmetic in
/-- Where a window stands among `total` workspaces. All numbers are signed integers of 64 bits,
and the first operation that leaves them ends the computation. -/
def ofWindow (skip limit total : Int) : Except ArithmeticFault Paging := do
  let totalPages ← pagesFor limit total
  let skipped ← divide skip limit
  let page ← add skipped 1
  let stop ← add skip limit
  .ok { skip, limit, page, totalPages, hasNext := stop < total, hasPrevious := 0 < skip }

end Paging

end Workspaces
