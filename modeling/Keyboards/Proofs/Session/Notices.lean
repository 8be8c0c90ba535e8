import Keyboards.Proofs.Session.Notification

/-! What the user hears of one keyboard that fails, among keyboards that share an identifier. -/

namespace Keyboards

namespace Turn

variable {u : Turn} {t : Session} {key : String × String} {p : Problem}

/-- Whether the keyboard with a key was to be activated and was not. -/
def fails (u : Turn) (key : String × String) : Bool :=
  u.reply.isFailure && u.target?.map (·.key) = some key

/-- What the user hears while the keyboard with a key fails. -/
def notices (key : String × String) (us : List Turn) : List String :=
  (us.filter (·.fails key)).flatMap fun u => History.problems u.events

theorem notices_cons (u : Turn) (us : List Turn) : notices key (u :: us) =
    (if u.fails key then History.problems u.events else []) ++ notices key us := by
  cases hu : u.fails key <;> simp [notices, hu]

/-- A keyboard's problem goes by the keyboard's identifier. -/
theorem problem?_id (hp : u.problem? = some p) (hk : p.key = some key) :
    p.id = Keyboard.joinId key.1 key.2 := by
  rw [problem?] at hp
  split at hp
  · simp only [Option.bind_eq_some_iff, Option.map_eq_some_iff] at hp
    obtain ⟨i, -, k, -, f, -, rfl⟩ := hp
    obtain rfl := Option.some.inj hk
    rfl
  · obtain ⟨id, -, rfl⟩ := Option.map_eq_some_iff.1 hp
    cases hk

theorem Sound.fails_iff (sound : u.Sound t) :
    u.fails key = true ↔ ∃ p, u.problem? = some p ∧ p.key = some key := by
  rw [fails, Bool.and_eq_true, decide_eq_true_eq]
  constructor
  · rintro ⟨hf, ht⟩
    obtain ⟨k, f, hk, hp⟩ := sound.reason hf
    rw [hk] at ht
    exact ⟨_, hp, ht⟩
  · rintro ⟨p, hp, hk⟩
    by_cases hf : u.reply.isFailure = true
    · obtain ⟨k, f, ht, hq⟩ := sound.reason hf
      obtain rfl := Option.some.inj (hp.symm.trans hq)
      exact ⟨hf, by rw [ht]; exact hk⟩
    · rw [problem?, if_neg hf, Option.map_eq_some_iff] at hp
      obtain ⟨id, -, rfl⟩ := hp
      cases hk

end Turn

namespace Session

open History

variable {o : Oracle} {s t : Session} {g h new : History} {key : String × String} {p : Problem}
  {ps : List Problem}

/-- What the user is to hear of a keyboard, given the problems that are met: its own one, if that
is the first one of its identifier. -/
def notice? (s : Session) (key : String × String) (ps : List Problem) : Option String :=
  if s.settings.notifyUnresolved = true ∧ Keyboard.joinId key.1 key.2 ∉ s.warned then
    ((ps.find? (·.id = Keyboard.joinId key.1 key.2)).filter (·.key = some key)).map (·.message)
  else none

theorem Noted.notice?_nil (noted : Noted s [] new t) : t.notice? key ps = s.notice? key ps := by
  have hwarned : t.warned = s.warned := by simpa [untold, Problem.firsts] using noted.warned
  rw [notice?, notice?, noted.settings, hwarned]

/-- A problem with another identifier changes nothing for a keyboard. -/
theorem Noted.notice?_other (noted : Noted s [p] new t)
    (other : p.id ≠ Keyboard.joinId key.1 key.2) : t.notice? key ps = s.notice? key (p :: ps) := by
  have hmem : Keyboard.joinId key.1 key.2 ∈ t.warned ↔ Keyboard.joinId key.1 key.2 ∈ s.warned := by
    rw [noted.warned, untold_singleton]
    split <;> simp [other.symm]
  simp only [notice?, noted.settings, hmem, List.find?_cons_of_neg, other, decide_false,
    Bool.false_eq_true, not_false_eq_true]

/-- After the first problem of an identifier nothing more is heard of keyboards that go by it. -/
theorem Noted.notice?_known (noted : Noted s [p] new t)
    (own : p.id = Keyboard.joinId key.1 key.2) : t.notice? key ps = none := by
  refine if_neg fun ⟨hn, hw⟩ => hw ?_
  rw [noted.settings] at hn
  rw [noted.warned, untold_singleton, own, List.mem_append]
  by_cases hk : Keyboard.joinId key.1 key.2 ∈ s.warned
  · exact .inl hk
  · simp [hn, hk, own]

/-- A turn adds to what is heard of a keyboard what is to be heard of it. -/
theorem notices_turn {u : Turn} (sound : u.Sound t) :
    (if u.fails key then problems u.events else []) ++ (t.notice? key ps).toList =
      (u.session.notice? key (u.problem?.toList ++ ps)).toList := by
  have hfails : u.fails key = true ↔ ∃ p, u.problem? = some p ∧ p.key = some key :=
    sound.fails_iff
  have noted := sound.noted
  cases hp : u.problem? with
  | none =>
    have hf : ¬u.fails key = true := by simp [hfails, hp]
    rw [hp] at noted
    rw [if_neg hf, noted.notice?_nil]
    rfl
  | some p =>
    rw [hp] at noted
    -- The first problem with the identifier takes the notice, whoever met it.
    by_cases own : p.id = Keyboard.joinId key.1 key.2
    · have hown : u.fails key = true ↔ p.key = some key := by simp [hfails, hp]
      rw [noted.notice?_known own, noted.told, Option.toList_some, untold_singleton]
      simp only [hown, own, notice?, List.singleton_append, List.find?_cons_of_pos, decide_true]
      by_cases hn : u.session.settings.notifyUnresolved = true ∧
          Keyboard.joinId key.1 key.2 ∉ u.session.warned
      · by_cases hk : p.key = some key <;> simp [hk, hn, Option.filter]
      · simp [hn]
    · have hf : ¬u.fails key = true := by
        rw [hfails]
        rintro ⟨q, hq, hk⟩
        exact own (Turn.problem?_id hp (Option.some.inj (hp.symm.trans hq) ▸ hk))
      rw [if_neg hf, noted.notice?_other own]
      rfl

/-- What the user hears of a keyboard over a run, whichever commands make it up. -/
theorem notices_turns (s : Session) (o : Oracle) (h : History) (cs : List Command)
    (key : String × String) : Turn.notices key (s.turns o h cs) =
      (s.notice? key ((s.turns o h cs).filterMap (·.problem?))).toList := by
  -- The induction is on the commands, from any session: what it knows stands for the turns before.
  induction cs generalizing s h with
  | nil => simp [turns, Turn.notices, notice?]
  | cons c cs ih =>
    obtain ⟨reply, t, new, he, sound⟩ := turn_sound s o c h
    rw [turns_cons he, Turn.notices_cons, ih, notices_turn sound]
    rw [List.filterMap_eq_flatMap_toList, List.filterMap_eq_flatMap_toList, List.flatMap_cons]

/-- The user hears once that a keyboard failed, and only if it was the first to fail under its
identifier: another keyboard, or a name that stands for nothing, may have taken the notice. -/
theorem first_failure_told {settings : SessionSettings} {offered : List Adaptor}
    {cs : List Command} {replies : List Reply}
    (opened : (start o.environment settings offered).run [] = (.ok s, g))
    (ran : (s.run o.environment cs).run g = ((replies, t), h))
    (notify : settings.notifyUnresolved = true)
    (failed : ∃ u ∈ s.turns o g cs, u.fails key = true) :
    (∃ p, ((s.turns o g cs).filterMap (·.problem?)).find?
        (·.id = Keyboard.joinId key.1 key.2) = some p ∧
      Turn.notices key (s.turns o g cs) = if p.key = some key then [p.message] else []) ∧
    (s.turns o g cs).map (·.command) = cs ∧ (s.turns o g cs).map (·.reply) = replies ∧
      h = g ++ (s.turns o g cs).flatMap (·.events) := by
  obtain ⟨hsettings, hwarned, -⟩ := start_noted opened
  obtain ⟨-, sounds⟩ := noted_of_run ran
  obtain ⟨u, hu, hf⟩ := failed
  obtain ⟨w, sound⟩ := sounds u hu
  obtain ⟨q, hq, hk⟩ := sound.fails_iff.1 hf
  have hfind : (((s.turns o g cs).filterMap (·.problem?)).find?
      (·.id = Keyboard.joinId key.1 key.2)).isSome = true := by
    rw [List.find?_isSome]
    exact ⟨q, List.mem_filterMap.2 ⟨u, hu, hq⟩, by simp [Turn.problem?_id hq hk]⟩
  obtain ⟨p, hp⟩ := Option.isSome_iff_exists.1 hfind
  refine ⟨⟨p, hp, ?_⟩, turns_of_run ran⟩
  rw [notices_turns, notice?, if_pos (by simp [hsettings, hwarned, notify]), hp]
  by_cases hpk : p.key = some key <;> simp [hpk]

namespace Sample

/-- Two keyboards that share an identifier are asked for, and nobody offers either. -/
theorem turns_serbian (h : History) :
    (told []).turns (host [us]) h [.activate serbianLatin, .activate serbian] =
      [failing [] serbianLatin [absence serbianLatin],
        failing [serbianLatin.legacyId] serbian []] := by
  rw [turns_fresh (by decide) rfl absent_serbianLatin,
    turns_known (by decide) rfl (by decide +kernel)]
  rfl

theorem fails_failing (ids : List String) (k : Keyboard) (new : History) :
    (failing ids k new).fails k.key = true := by
  simp [Turn.fails, failing, Reply.isFailure]

end Sample

/-- The keyboard that fails first under an identifier is told. -/
theorem first_failure_told_serbian : ∃ (s t : Session) (g h : History) (replies : List Reply),
    (start (Sample.host [Sample.us]).environment {} [Sample.system, Sample.methods]).run [] =
      (.ok s, g) ∧
    (s.run (Sample.host [Sample.us]).environment
      [.activate Sample.serbianLatin, .activate Sample.serbian]).run g = ((replies, t), h) ∧
    Turn.notices Sample.serbianLatin.key (s.turns (Sample.host [Sample.us]) g
      [.activate Sample.serbianLatin, .activate Sample.serbian]) =
        ["The keyboard 'Serbian (Latin)' is not installed on this computer."] := by
  obtain ⟨g, opened⟩ := Sample.opened_told
  obtain ⟨t, ran, -, -⟩ := run_turns (Sample.told []) (Sample.host [Sample.us]) g
    [.activate Sample.serbianLatin, .activate Sample.serbian]
  refine ⟨_, t, g, _, _, opened, ran, ?_⟩
  have hfailed : ∃ u ∈ (Sample.told []).turns (Sample.host [Sample.us]) g
      [.activate Sample.serbianLatin, .activate Sample.serbian],
      u.fails Sample.serbianLatin.key = true :=
    ⟨_, by rw [Sample.turns_serbian]; exact .head _, Sample.fails_failing ..⟩
  obtain ⟨⟨p, hp, hnotices⟩, -⟩ := first_failure_told opened ran rfl hfailed
  rw [Sample.turns_serbian, List.filterMap_cons,
    Sample.problem?_failing Sample.absent_serbianLatin, List.find?_cons_of_pos (by decide),
    Option.some.injEq] at hp
  rw [hnotices, ← hp]
  rfl

/-- The second one fails in silence. -/
theorem not_every_failure_told : ¬∀ (o : Oracle) (s t : Session) (g h : History)
    (settings : SessionSettings) (offered : List Adaptor) (cs : List Command)
    (replies : List Reply) (key : String × String),
    (start o.environment settings offered).run [] = (.ok s, g) →
    (s.run o.environment cs).run g = ((replies, t), h) → settings.notifyUnresolved = true →
    (∃ u ∈ s.turns o g cs, u.fails key = true) →
    (Turn.notices key (s.turns o g cs)).length = 1 := by
  intro always
  obtain ⟨g, opened⟩ := Sample.opened_told
  obtain ⟨t, ran, -, -⟩ := run_turns (Sample.told []) (Sample.host [Sample.us]) g
    [.activate Sample.serbianLatin, .activate Sample.serbian]
  have hlength := always _ _ t g _ _ _ _ _ Sample.serbian.key opened ran rfl
    ⟨_, by rw [Sample.turns_serbian]; exact .tail _ (.head _), Sample.fails_failing ..⟩
  rw [Sample.turns_serbian] at hlength
  revert hlength
  decide

end Session

end Keyboards
