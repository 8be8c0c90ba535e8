import Keyboards.Proofs.Session.Installation

/-! Steps of an open session: all that a command can do, with the events that go with it. -/

namespace Keyboards

/-- Requests that only want to know something. -/
def Request.isQuestion : Request → Bool
  | .describe .. | .defaultKeyboard | .activeKeyboard | .setupProgram | .setupIsExtra => true
  | _ => false

/-- The adaptors that a command hands over. -/
def Command.offers : Command → List Adaptor
  | .replaceAdaptors offered => offered
  | _ => []

/-- Commands that leave adaptors and catalog as they are. -/
def Command.isPlain : Command → Bool
  | .replaceAdaptors _ | .refresh | .shutDown => false
  | _ => true

/-- Whether a keyboard was activated. -/
def Reply.isActivated : Reply → Bool
  | .activation .activated => true
  | .activationFor (.ok .activated) _ => true
  | _ => false

namespace History

/-- An adaptor lets go of a keyboard. -/
def letting (a : Option Adaptor) (k : Keyboard) : History :=
  a.toList.map fun a => .asked a (.deactivate k) ()

/-- An adaptor gets its keyboard back. -/
def restoring (a : Option Adaptor) (k : Keyboard) (answer : Except AdaptorError Unit) : History :=
  a.toList.map fun a => .asked a (.activate k) answer

/-- Everyone hears of a target. -/
def news (as : List Adaptor) (ls : List Listener) (e : FocusEvent) : History :=
  as.map (fun a => .asked a (.focus e) ()) ++ ls.map fun l => .told l e

end History

namespace Session

open History

variable {o : Oracle} {s t u : Session} {i : Installed} {g h : History}

def withInstalled (s : Session) (i : Installed) : Session := { s with installed := some i }

/-- Puts another keyboard into use. -/
def withActive (s : Session) (i : Installed) (k : Keyboard) : Session :=
  s.withInstalled { i with active := k }

/-- What a session is after a catalog was filled anew. -/
def refreshed (s : Session) (i : Installed) (c : Catalog) : Session :=
  s.withInstalled
    { i with catalog := c, active := (c.get? i.active.layout i.active.locale).getD .zero }

/-- One step that leaves adaptors and catalog as they are. -/
inductive Step (s : Session) : History → Session → Prop where
  | question {i : Installed} {a : Adaptor} {r : Request} (live : s.installed = some i)
      (mem : a ∈ i.adaptors) (asks : r.isQuestion = true) (answer : r.Answer) :
      Step s [.asked a r answer] s
  | warning {i : Installed} {id : String} (live : s.installed = some i)
      (notify : s.settings.notifyUnresolved = true) (fresh : id ∉ s.warned) (message : String) :
      Step s [.reported (.problem message)] { s with warned := s.warned ++ [id] }
  | adoption {i : Installed} {layout locale : String} {k : Keyboard} (live : s.installed = some i)
      (idle : i.active.isZero = true) (found : i.catalog.get? layout locale = some k) :
      Step s [.asked i.primary .activeKeyboard (some (layout, locale))] (s.withActive i k)
  | switch {i : Installed} {k r : Keyboard} {c : Category} {a : Adaptor}
      (live : s.installed = some i) (usable : usable? i k = some (r, c))
      (serves : i.serving c = some a) :
      Step s (letting (leaving? i c) i.active ++ [.asked a (.activate r) (.ok ())])
        (s.withActive i r)
  | failure {i : Installed} {k r : Keyboard} {c : Category} {a : Adaptor}
      (live : s.installed = some i) (usable : usable? i k = some (r, c))
      (serves : i.serving c = some a) (e : AdaptorError) (answer : Except AdaptorError Unit) :
      Step s (letting (leaving? i c) i.active ++
        ([.asked a (.activate r) (.error e)] ++ restoring (leaving? i c) i.active answer)) s
  | release {i : Installed} (live : s.installed = some i) :
      Step s (if i.active.isZero then [] else
        letting (i.active.category.bind i.serving) i.active) (s.withActive i .zero)
  | register {i : Installed} (live : s.installed = some i) (t : FocusTarget)
      (handler : Option Handler) :
      Step s (news i.adaptors s.listeners (.added t handler))
        { s with targets := s.targets.insert t handler }
  | unregister {i : Installed} {t : FocusTarget} (live : s.installed = some i)
      (known : s.targets.contains t = true) :
      Step s (news i.adaptors s.listeners (.removing t)) { s with targets := s.targets.erase t }
  | listen {i : Installed} (live : s.installed = some i) (l : Listener) :
      Step s [] { s with listeners := s.listeners ++ [l] }

/-- Any number of steps, one after the other. -/
inductive Steps : Session → History → Session → Prop where
  | refl (s : Session) : Steps s [] s
  | tail {s t u : Session} {g h : History} (before : Steps s g t) (last : Step t h u) :
      Steps s (g ++ h) u

/-- A keyboard was activated: after questions at most, its adaptor accepted it. -/
def Switched (s : Session) (new : History) (t : Session) : Prop :=
  ∃ (i : Installed) (k r : Keyboard) (c : Category) (a : Adaptor) (asked : History),
    s.installed = some i ∧ usable? i k = some (r, c) ∧ i.serving c = some a ∧
    (∀ e ∈ asked, ∃ b q, ∃ answer : Request.Answer q, q.isQuestion = true ∧
      e = .asked b q answer) ∧
    new = asked ++ (letting (leaving? i c) i.active ++ [.asked a (.activate r) (.ok ())]) ∧
    t = s.withActive i r

/-- What an open session does with a command: the reply, the events and the session afterwards. -/
inductive Performed (s : Session) : Command → Reply → History → Session → Prop where
  | steps {c : Command} {reply : Reply} {new : History} {t : Session}
      (plain : c.isPlain = true) (path : Steps s new t)
      (switched : reply.isActivated = true → Switched s new t) : Performed s c reply new t
  | refusal {old : Installed} {offered : List Adaptor} {e : SessionError} {new : History}
      (live : s.installed = some old) (installing : Installing offered (.error e) new) :
      Performed s (.replaceAdaptors offered) (.failed e) new s
  | replacement {old i : Installed} {offered : List Adaptor} {new : History}
      (live : s.installed = some old) (installing : Installing offered (.ok i) new) :
      Performed s (.replaceAdaptors offered) .done
        (new ++ (announcements s.targets i.adaptors ++ (closings old.adaptors ++ introduction i)))
        (s.withInstalled i)
  | refresh {i : Installed} {offers : List Offer} (live : s.installed = some i)
      (listed : offers.map Prod.fst = i.adaptors) :
      Performed s .refresh .done (enumerations offers)
        (s.refreshed i (Catalog.ofList (offers.flatMap Offer.keyboards)))
  | shutDown {i : Installed} (live : s.installed = some i) :
      Performed s .shutDown .done (closings i.adaptors) { s with installed := none }

theorem Steps.single (h : Step s g t) : Steps s g t := by
  simpa using Steps.tail (.refl s) h

theorem Steps.trans (hst : Steps s g t) (htu : Steps t h u) : Steps s (g ++ h) u := by
  induction htu with
  | refl => simpa using hst
  | tail _ last ih =>
    rw [← List.append_assoc]
    exact .tail ih last

/-- Steps do not shut a session down. -/
theorem Step.live (h : Step s g t) : ∃ i, t.installed = some i := by
  cases h with
  | question live => exact ⟨_, live⟩
  | warning live => exact ⟨_, live⟩
  | adoption | switch | release => exact ⟨_, rfl⟩
  | failure live => exact ⟨_, live⟩
  | register live => exact ⟨_, live⟩
  | unregister live => exact ⟨_, live⟩
  | listen live => exact ⟨_, live⟩

theorem Steps.live (h : Steps s g t) (hs : ∃ i, s.installed = some i) :
    ∃ i, t.installed = some i := by
  cases h with
  | refl => exact hs
  | tail _ last => exact last.live

end Session

end Keyboards
