/-
What can go wrong with a store.

* `StoreError`: the causes, and `StoreError.message?`, their wording; causes
  that lie in files, in texts that cannot be decoded or in the transport have
  no wording of their own;
* `StoreError.isNotFound`, `StoreError.isUnavailable`: the two causes that
  callers tell apart.
-/
import MockupStudio.Address.Error
import MockupStudio.Decimal.Layout
import MockupStudio.Text.Quoted

namespace MockupStudio

/-- Why an operation of a store failed. -/
inductive StoreError where
  | notFound (id : String)
  /-- The store could not be reached; the reason, if it is worded here. -/
  | unavailable (reason : Option String)
  | invalidId (id : String)
  | invalidField (name : String)
  /-- A file could not be read or written. -/
  | file
  /-- A text is no document. -/
  | undecodable
  /-- A request or its answer was cut off or not understood. -/
  | transport
  | address (error : AddressError)
  | unexpectedStatus (status : Nat) (address : String)
  deriving Repr, DecidableEq

namespace StoreError

/-- The wording of an error. -/
def message? : StoreError → Option String
  | notFound id => some ("no such document: " ++ id)
  | unavailable reason => reason.map ("document service unavailable: " ++ ·)
  | invalidId id => some ("invalid document id: " ++ Text.quoted id)
  | invalidField name => some ("invalid source field: " ++ Text.quoted name)
  | address e => some ("invalid url: " ++ e.message)
  | unexpectedStatus status target =>
    some ("unexpected status " ++ Decimal.integer status ++ " from " ++ target)
  | file | undecodable | transport => none

/-- Whether there is no such document. -/
def isNotFound : StoreError → Bool
  | notFound _ => true
  | _ => false

/-- Whether the store could not be reached. -/
def isUnavailable : StoreError → Bool
  | unavailable _ => true
  | _ => false

end StoreError

end MockupStudio
