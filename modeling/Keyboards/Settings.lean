/-! Settings of a session and of the adaptors, with the values they have unless told otherwise. -/

namespace Keyboards

/-- What a session does of its own accord. -/
structure SessionSettings where
  /-- Tell the user, once for each identifier, of keyboards not found or not activated. -/
  notifyUnresolved : Bool := true
  /-- Ask the host for its keyboard as long as none was activated here. -/
  queryHostActive : Bool := true
  /-- Consult the obsolete fields of a writing system without a keyboard. -/
  legacyLookup : Bool := true
deriving DecidableEq, Repr

/-- Texts by name, the names in increasing order. -/
structure NameMap where
  entries : List (String × String)
  sorted : entries.Pairwise (fun a b => a.1 < b.1) := by decide
deriving DecidableEq, Repr

namespace NameMap

def empty : NameMap := ⟨[], .nil⟩

instance : Inhabited NameMap := ⟨empty⟩

def get? (m : NameMap) (name : String) : Option String := m.entries.lookup name

/-- Puts an entry in its place; an entry of the same name gives way. -/
def place (name text : String) : List (String × String) → List (String × String)
  | [] => [(name, text)]
  | e :: rest =>
    if name < e.1 then (name, text) :: e :: rest
    else if name = e.1 then (name, text) :: rest
    else e :: place name text rest

theorem mem_place {name text : String} {es : List (String × String)} {x : String × String}
    (h : x ∈ place name text es) : x = (name, text) ∨ x ∈ es := by
  induction es with
  | nil => simpa [place] using h
  | cons e rest ih =>
    simp only [place] at h
    split at h
    · simpa using h
    · split at h
      · simp only [List.mem_cons] at h ⊢
        exact h.imp id .inr
      · simp only [List.mem_cons] at h ⊢
        rcases h with h | h
        · exact .inr (.inl h)
        · rcases ih h with h | h
          · exact .inl h
          · exact .inr (.inr h)

theorem pairwise_place (name text : String) {es : List (String × String)}
    (h : es.Pairwise (fun a b => a.1 < b.1)) :
    (place name text es).Pairwise (fun a b => a.1 < b.1) := by
  induction es with
  | nil => simp [place]
  | cons e rest ih =>
    obtain ⟨he, hr⟩ := List.pairwise_cons.1 h
    simp only [place]
    split
    · rename_i hlt
      refine List.pairwise_cons.2 ⟨fun x hx => ?_, h⟩
      rcases List.mem_cons.1 hx with rfl | hx
      · exact hlt
      · exact String.lt_trans hlt (he x hx)
    · rename_i hlt
      split
      · rename_i heq
        exact List.pairwise_cons.2 ⟨fun x hx => heq ▸ he x hx, hr⟩
      · rename_i hne
        refine List.pairwise_cons.2 ⟨fun x hx => ?_, ih hr⟩
        rcases mem_place hx with rfl | hx
        · exact ((Std.lt_trichotomy name e.1).resolve_left hlt).resolve_left hne
        · exact he x hx

def insert (m : NameMap) (name text : String) : NameMap :=
  ⟨place name text m.entries, pairwise_place name text m.sorted⟩

/-- Later entries of a list win. -/
def ofList (es : List (String × String)) : NameMap :=
  es.foldl (fun m e => m.insert e.1 e.2) empty

end NameMap

/-- How the adaptor for system layouts works. -/
structure XkbSettings where
  /-- The program that queries and switches layouts. -/
  program : String := "setxkbmap"
  /-- The file that lists the layouts. -/
  rulesPath : String := "/usr/share/X11/xkb/rules/evdev.lst"
  setupProgram : Option String := some "gnome-control-center"
  setupArguments : List String := ["region"]
  /-- Locales by layout name; a full name counts before its layout code. -/
  localeOverrides : NameMap := .empty
deriving DecidableEq, Repr

/-- How the adaptor for input-method engines works. -/
structure IbusSettings where
  /-- The program that lists and switches engines. -/
  program : String := "ibus"
  /-- The engine that passes keys through unchanged. -/
  neutralEngine : String := "xkb:us::eng"
  /-- Offer engines that stand for system layouts too. -/
  includeXkbEngines : Bool := false
  setupProgram : Option String := some "ibus-setup"
deriving DecidableEq, Repr

/-- All settings of the command line program. -/
structure Settings where
  session : SessionSettings := {}
  xkb : XkbSettings := {}
  ibus : IbusSettings := {}
deriving DecidableEq, Repr

end Keyboards
