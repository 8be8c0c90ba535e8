import Keyboards.Simulation.Hosts
import Keyboards.Simulation.Script

/-! A simulated environment for sessions. -/

namespace Keyboards.Simulation

/-- An adaptor with all that it works on. -/
inductive Actor where
  | xkb (host : XkbHost) (state : Xkb.State)
  | ibus (host : IbusHost) (state : Ibus.State)
  | scripted (script : Script)

namespace Actor

def name : Actor → String
  | xkb .. => Xkb.adaptorName
  | ibus .. => Ibus.adaptorName
  | scripted s => s.name

def category : Actor → Category
  | xkb .. => .primary
  | ibus .. => .secondary
  | scripted s => s.category

/-- The answer to a request, the actor afterwards, and what was logged. -/
def answer (r : Request) : Actor → r.Answer × Actor × List String
  | xkb host state =>
    let ((a, state), t) := (Xkb.answer XkbHost.host state r).run ⟨host, []⟩
    (a, xkb t.state state, t.log)
  | ibus host state =>
    let ((a, state), t) := (Ibus.answer IbusHost.host state r).run ⟨host, []⟩
    (a, ibus t.state state, t.log)
  | scripted s =>
    let (a, log) := s.answer r
    (a, scripted s, log)

end Actor

/-- All actors that were ever on offer, what was logged and what was reported. -/
structure World where
  actors : Array Actor := #[]
  log : List String := []
  journal : Journal := []

namespace World

/-- Brings an actor in and gives a handle on it. -/
def enroll (w : World) (a : Actor) : Adaptor × World :=
  (⟨w.actors.size, a.name, a.category⟩, { w with actors := w.actors.push a })

/-- Brings actors in, in order. -/
def enrollAll (w : World) (as : List Actor) : List Adaptor × World :=
  as.foldl (fun acc a =>
    let (h, w) := acc.2.enroll a
    (acc.1 ++ [h], w)) ([], w)

/-- Has an actor answer; a handle on nothing gets a silent actor. -/
def ask (w : World) (h : Adaptor) (r : Request) : r.Answer × World :=
  match w.actors[h.handle]? with
  | some actor =>
    let (a, actor, log) := actor.answer r
    (a, { w with actors := w.actors.setIfInBounds h.handle actor, log := w.log ++ log })
  | none => (Script.reply {} r, w)

/-- The environment that consists of the actors. Listeners log what they hear. -/
def environment : Environment (StateM World) where
  ask h r := modifyGet (ask · h r)
  tell l event := modify fun w =>
    { w with log := w.log ++ ["listener " ++ l.name ++ ": " ++ event.describe] }
  report x := modify fun w => { w with journal := w.journal ++ [x] }

end World

end Keyboards.Simulation
