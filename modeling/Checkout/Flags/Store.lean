import Checkout.Flags.Basic
import Checkout.Table

/-!
# Flags kept in memory

A flag backend that holds a value for every flag that was set, counts the questions it is asked,
and can be taken off line.
-/

set_option autoImplicit false

namespace Checkout

inductive FlagValue where
  | boolean (value : Bool)
  | integer (value : Int)
deriving DecidableEq

def FlagValue.as? : (kind : FlagKind) → FlagValue → Option kind.Value
  | .boolean, .boolean value => some value
  | .integer, .integer value => some value
  | _, _ => none

structure FlagStore where
  values : Table String FlagValue
  offline : Bool
  evaluations : Nat
deriving DecidableEq

namespace FlagStore

def empty : FlagStore := ⟨.empty, false, 0⟩

def set (store : FlagStore) (flag : String) (value : FlagValue) : FlagStore :=
  { store with values := store.values.insert flag value }

def setOffline (store : FlagStore) (offline : Bool) : FlagStore :=
  { store with offline }

def answer (store : FlagStore) (kind : FlagKind) (flag : String) : Except FlagError kind.Value :=
  if store.offline then .error (.unavailable "flag backend offline")
  else
    match store.values.get? flag with
    | none => .error (.notFound flag)
    | some value =>
      match value.as? kind with
      | none => .error (.typeMismatch flag kind)
      | some value => .ok value

def evaluate (store : FlagStore) (kind : FlagKind) (flag : String) :
    Except FlagError kind.Value × FlagStore :=
  (store.answer kind flag, { store with evaluations := store.evaluations + 1 })

end FlagStore

end Checkout
