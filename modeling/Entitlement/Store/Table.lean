/-! # Tables

A table is a list of rows, oldest first. Rows are told apart by a key. Two copies
of a table that went separate ways are merged row by row. -/

namespace Entitlement.Store

variable {α κ : Type}

/-- Changes the first row that is wanted. Returns the changed row and the table with
it, or nothing if no row is wanted. -/
def changeFirst? (wanted : α → Bool) (change : α → α) : List α → Option (α × List α)
  | [] => none
  | row :: rows =>
      if wanted row then some (change row, change row :: rows)
      else (changeFirst? wanted change rows).map fun (changed, rest) => (changed, row :: rest)

def upsert [DecidableEq κ] (key : α → κ) (row : α) : List α → List α
  | [] => [row]
  | present :: rows => if key present = key row then row :: rows else present :: upsert key row rows

def hasKey [DecidableEq κ] (key : α → κ) (wanted : κ) (rows : List α) : Bool :=
  rows.any fun row => key row = wanted

/-- Brings the changes that lead from `base` to `work` into a table that may have
changed meanwhile: rows that were dropped are dropped, rows that are new or changed
are put, and all others stay as they are. -/
def mergeRows [DecidableEq α] [DecidableEq κ] (key : α → κ) (committed base work : List α) :
    List α :=
  let kept := committed.filter fun row =>
    !(hasKey key (key row) base && !hasKey key (key row) work)
  (work.filter fun row => !base.contains row).foldl (fun rows row => upsert key row rows) kept

end Entitlement.Store
