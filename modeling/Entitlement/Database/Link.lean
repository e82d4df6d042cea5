import Entitlement.Action
import Entitlement.Database.Answer
import Entitlement.Database.Statement

/-! # The link to the database

Statements are sent one after the other, and each is answered before the next is sent.
What the database answers may depend on everything that was sent before. There is a
fixed number of connections; a transaction holds one from its start to its end. -/

namespace Entitlement.Database

abbrev Server := List Statement → Statement → Answer

namespace Server

/-- A server that has its answers ready and gives them out in order, passing over
statements that start or end a transaction; with no answer left, nothing is found and
nothing is changed. Statements that begin with a failing word fail. -/
def ofAnswers (answers : List Answer) (failing : List String) : Server :=
  fun sent statement =>
    if failing.contains statement.verb then .refused ""
    else if statement.isBoundary then .affected 0
    else (answers[(sent.filter fun earlier => !earlier.isBoundary).length]?).getD (.affected 0)

end Server

structure Link where
  server : Server
  sent : List Statement
  capacity : Nat
  held : Nat

namespace Link

def exchange (link : Link) (statement : Statement) : Answer × Link :=
  (link.server link.sent statement, { link with sent := link.sent ++ [statement] })

def isFree (link : Link) : Bool := link.held < link.capacity

def ask (operation : Operation) (statement : Statement) : Action Link Answer :=
  Action.ofOutcome fun link =>
    if link.isFree then
      let (answer, link) := link.exchange statement
      match answer with
      | .refused _ => (.error operation.failure, link)
      | answer => (.ok answer, link)
    else (.error operation.failure, link)

def createTables : Action Link Unit := do
  let _ ← ask .createTables .createTables

def userByUuid (text : String) : Action Link User := do
  match Uuid.read text with
  | .error misspelling => throw (Fault.invalidBody "user_uuid" misspelling.message)
  | .ok uuid =>
      let answer ← ask .userByUuid (.userByUuid uuid)
      match answer.rowList with
      | [] => throw (Fault.notFound "user" uuid.text)
      | row :: _ =>
          match row.user? with
          | some user => pure user
          | none => throw Operation.userByUuid.failure

end Link
end Entitlement.Database
