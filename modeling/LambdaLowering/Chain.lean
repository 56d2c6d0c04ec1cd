import LambdaLowering.ClassBuilder
import LambdaLowering.ClassLowering

/-! Several lowerings in a row, each with its own settings, in front of one consumer.

The first setting belongs to the lowering that meets the class first.
-/

set_option autoImplicit false

namespace LambdaLowering

namespace Chain

variable {S : Type}

/-- The progress of every lowering in the row, outermost first, and the state behind them. -/
def State (S : Type) : List Config → Type
  | [] => S
  | _ :: rest => ClassLowering × State S rest

def start (state : S) : (configs : List Config) → State S configs
  | [] => state
  | _ :: rest => ({}, start state rest)

def lowerings : (configs : List Config) → State S configs → List ClassLowering
  | [], _ => []
  | _ :: rest, (lowering, inner) => lowering :: lowerings rest inner

def base : (configs : List Config) → State S configs → S
  | [], state => state
  | _ :: rest, (_, inner) => base rest inner

def services (shared : Services S) : (configs : List Config) → Services (State S configs)
  | [] => shared
  | _ :: rest => (services shared rest).onSnd

def sink (shared : Services S) (consumer : Sink S) :
    (configs : List Config) → Sink (State S configs)
  | [] => consumer
  | config :: rest => ClassLowering.sink config (services shared rest) (sink shared consumer rest)

end Chain

structure ChainOutcome where
  result : Except Error Unit
  stats : List Stats
  built : Except Error ClassFile

def lowerThrough {S : Type} (configs : List Config) (shared : Services S) (file : ClassFile)
    (state : S) : ChainOutcome × S :=
  let finish (result : Except Error Unit) (last : Chain.State (ClassBuilder × S) configs) :=
    let (builder, state) := Chain.base configs last
    (⟨result, (Chain.lowerings configs last).map (·.stats), builder.finish⟩, state)
  match file.streamTo (Chain.sink shared.onSnd ClassBuilder.sink configs)
      (Chain.start (.initial, state) configs) with
  | .ok _ last => finish (.ok ()) last
  | .error error last => finish (.error error) last

end LambdaLowering
