/-
The command budget of a connection: a burst of commands, refilled over a minute.

Commands that come at once are allowed until the burst is used up; a shard waits with the next one until the budget has
grown again.
-/

namespace Shardwire

structure Budget where
  perMinute : Nat
  spent : Nat
  deriving DecidableEq, Repr

namespace Budget

def fresh (perMinute : Nat) : Budget := ⟨perMinute, 0⟩

/-- what the gateway allows on one connection -/
def gateway : Budget := fresh 120

/-- one more command, if the burst allows it -/
def take? (b : Budget) : Option Budget :=
  if b.spent < b.perMinute then some { b with spent := b.spent + 1 } else none

/-- time has made room for one more command -/
def refill (b : Budget) : Budget := { b with spent := b.spent - 1 }

/-- which of so many commands at once are allowed -/
def burst (b : Budget) : Nat → List Bool
  | 0 => []
  | n + 1 =>
    match b.take? with
    | some b' => true :: burst b' n
    | none => false :: burst b n

end Budget

end Shardwire
