import Acceptor.Definition

/-! Named definitions, lists of them, and the two that are always at hand. Each of these is
over an alphabet of two letters and describes a language; `bets` accepts it, and `stars`
accepts it but for some words. -/
namespace Acceptor

structure NamedDefinition where
  name : String
  description : Option String
  definition : Definition
  deriving DecidableEq

structure Catalog where
  automata : List NamedDefinition
  deriving DecidableEq

namespace Catalog

def empty : Catalog := ⟨[]⟩

/-- States `0, 1, …`, one for each pair; the pair gives the targets on the two symbols. -/
def binaryTable (x y : String) (targets : List (State × State)) : Table :=
  .ofList (targets.mapIdx fun i t => (.ofNat i, .ofList [(x, t.1), (y, t.2)]))

def binaryDefinition (x y : String) (targets : List (State × State))
    (finals traps : List State) : Definition where
  states := .ofList ((List.range targets.length).map .ofNat)
  alphabet := .ofList [x, y]
  transitions := binaryTable x y targets
  startState := 0
  finalStates := .ofList finals
  trapStates := .ofList traps

def bets : NamedDefinition where
  name := "bets"
  description := some
    "(aa + bb + aba + ba) (aba + bab + bbb) (a + b)* (a + b + aa + abab) (aa + bb)*"
  definition := binaryDefinition "a" "b"
    [(2, 1), (3, 3), (3, 4), (5, 6), (3, 7), (8, 9), (10, 10), (7, 7), (8, 8), (11, 8), (7, 11),
      (12, 12), (12, 12)]
    [12] [7, 8]

def stars : NamedDefinition where
  name := "stars"
  description := some ("(111 + 101 + 001 + 010) (1 + 0 + 11) (1 + 0 + 11)* " ++
    "(111 + 000) (111 + 000)* (01 + 10 + 00)")
  definition := binaryDefinition "0" "1"
    [(1, 2), (5, 3), (5, 5), (6, 4), (4, 4), (4, 6), (7, 7), (9, 8), (9, 12), (12, 8), (10, 11),
      (22, 12), (9, 17), (15, 8), (10, 11), (14, 16), (22, 12), (20, 19), (15, 8), (23, 19),
      (18, 21), (9, 12), (13, 8), (18, 21)]
    [10, 11, 18, 21, 22, 23] [4]

def builtin : List NamedDefinition := [bets, stars]

end Catalog

end Acceptor
