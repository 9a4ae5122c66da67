import Mathlib.Data.Nat.Notation
set_option autoImplicit false

namespace CashuService

/-! The enumerations of the wallet kit `cdk` that the code branches on. -/

inductive CurrencyUnit where
  | sat
  | other (name : String)
  deriving DecidableEq, Repr

inductive PaymentMethod where
  | bolt11
  | other (name : String)
  deriving DecidableEq, Repr

inductive MeltQuoteState where
  | unpaid | paid | pending | unknown | failed
  deriving DecidableEq, Repr

inductive MintQuoteState where
  | unpaid | paid | issued
  deriving DecidableEq, Repr

inductive ProofState where
  | spent | unspent | pending | reserved | pendingSpent
  deriving DecidableEq, Repr

def CurrencyUnit.toString : CurrencyUnit → String
  | .sat => "sat"
  | .other name => name

def MeltQuoteState.toString : MeltQuoteState → String
  | .unpaid => "UNPAID"
  | .paid => "PAID"
  | .pending => "PENDING"
  | .unknown => "UNKNOWN"
  | .failed => "FAILED"

def MintQuoteState.toString : MintQuoteState → String
  | .unpaid => "UNPAID"
  | .paid => "PAID"
  | .issued => "ISSUED"

structure Amount where
  value : UInt64
  unit : CurrencyUnit
  deriving DecidableEq, Repr

structure Proof where
  amount : UInt64
  keysetId : String
  secret : String
  c : String
  deriving DecidableEq, Repr

/-- A proof in the wallet's store, under its point `y` in hexadecimal. -/
structure ProofInfo where
  proof : Proof
  y : String
  mintUrl : String
  state : ProofState
  unit : CurrencyUnit
  deriving DecidableEq, Repr

end CashuService
