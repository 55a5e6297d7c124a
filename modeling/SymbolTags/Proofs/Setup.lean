import SymbolTags.Log.Setup

namespace SymbolTags.Log.State

/-!
# Setting up — what is changed, and what a failure leaves behind

Setting up reads the level first, then marks logging as set up, and puts handlers in place only
after the directory of the log file has been made:

* `SetUp` — the five ways in which it ends, and `setUp_configure`, which says that there are no
  others;
* `configure_ok` — one that succeeds puts just the console and the log file in place;
* `configure_error` — one that fails leaves the level and the handlers as they are, and
  everything else too unless the level could be read and logging was not set up before;
* `foldl_configure_of_failing` — once logging is set up, failures leave it alone.
-/

/-- The ways in which setting up ends. -/
inductive SetUp (s : State) (level : String) (logFile : Option String) (home : String) :
    Except SetupError Unit × State → Prop
  | unreadable {e : UnsupportedLevel} (h : readLevel level = .error e) :
      SetUp s level logFile home (.error (.unsupportedLevel e), s)
  | homeless {l : Level} {path : String} (hlevel : readLevel level = .ok l)
      (hlog : logFile = some path) (h : File.expandHome home path = none) :
      SetUp s level logFile home (.error .noHome, { s with structured := true })
  | blocked {l : Level} {path expanded : String} {o : File.Files.Obstacle}
      (hlevel : readLevel level = .ok l) (hlog : logFile = some path)
      (hexpanded : File.expandHome home path = some expanded)
      (h : s.files.makeParents expanded = .error o) :
      SetUp s level logFile home
        (.error (.noDirectory (File.fullName s.directory o.place) o.error),
          { s with structured := true })
  | console {l : Level} (hlevel : readLevel level = .ok l) (hlog : logFile = none) :
      SetUp s level logFile home
        (.ok (), { s with structured := true, level := l, handlers := [.console l] })
  | file {l : Level} {path expanded : String} {files : File.Files}
      (hlevel : readLevel level = .ok l) (hlog : logFile = some path)
      (hexpanded : File.expandHome home path = some expanded)
      (h : s.files.makeParents expanded = .ok files) :
      SetUp s level logFile home
        (.ok (), { s with
          structured := true
          level := l
          handlers := [.console l, .file (File.settled expanded) l]
          files })

variable {s s' : State} {level : String} {logFile : Option String} {home : String}

/-- **Setting up** ends in one of these ways. -/
theorem setUp_configure (s : State) (level : String) (logFile : Option String) (home : String) :
    SetUp s level logFile home (s.configure level logFile home) := by
  unfold configure
  cases hlevel : readLevel level with
  | error e => exact .unreadable hlevel
  | ok l =>
    cases logFile with
    -- Without a log file nothing can fail any more.
    | none => exact .console hlevel rfl
    | some path =>
      cases hexpanded : File.expandHome home path with
      | none =>
        simp only [Option.map_some, hexpanded]
        exact .homeless hlevel rfl hexpanded
      | some expanded =>
        simp only [Option.map_some, hexpanded]
        cases hfiles : s.files.makeParents expanded with
        | error o => exact .blocked hlevel rfl hexpanded hfiles
        | ok files => exact .file hlevel rfl hexpanded hfiles

/-- **Success.**  Just the console and, if one is named, the log file are in place, both at the
    level that was asked for, which is that of the root as well. -/
theorem configure_ok (h : s.configure level logFile home = (.ok (), s')) :
    s'.structured = true ∧ readLevel level = .ok s'.level ∧
      ((logFile = none ∧ s'.handlers = [.console s'.level]) ∨
        ∃ path expanded, logFile = some path ∧ File.expandHome home path = some expanded ∧
          s'.handlers = [.console s'.level, .file (File.settled expanded) s'.level]) := by
  have hends := setUp_configure s level logFile home
  rw [h] at hends
  cases hends with
  | console hlevel hlog => exact ⟨rfl, hlevel, .inl ⟨hlog, rfl⟩⟩
  | file hlevel hlog hexpanded _ => exact ⟨rfl, hlevel, .inr ⟨_, _, hlog, hexpanded, rfl⟩⟩

/-- **Failure.**  The level of the root, the handlers and the files stay.  Of a level that can be
    read the mark stays behind that logging is set up, although no handler has been put in
    place. -/
theorem configure_error {e : SetupError} (h : s.configure level logFile home = (.error e, s')) :
    ((∃ u, e = .unsupportedLevel u) ∧ s' = s) ∨
      ((∀ u, e ≠ .unsupportedLevel u) ∧ s' = { s with structured := true }) := by
  have hends := setUp_configure s level logFile home
  rw [h] at hends
  cases hends with
  | unreadable _ => exact .inl ⟨⟨_, rfl⟩, rfl⟩
  | homeless _ _ _ => exact .inr ⟨by simp, rfl⟩
  | blocked _ _ _ _ => exact .inr ⟨by simp, rfl⟩

/-- A failure leaves everything as it is just if the level is at fault or logging was set up
    before. -/
theorem eq_iff_of_configure_error {e : SetupError}
    (h : s.configure level logFile home = (.error e, s')) :
    s' = s ↔ (∃ u, e = .unsupportedLevel u) ∨ s.structured = true := by
  rcases configure_error h with ⟨hlevel, rfl⟩ | ⟨hlevel, rfl⟩
  · exact ⟨fun _ => .inl hlevel, fun _ => rfl⟩
  · constructor
    · intro heq
      exact .inr (congrArg structured heq).symm
    · rintro (⟨u, hu⟩ | hset)
      · exact absurd hu (hlevel u)
      · rw [← hset]

/-- Where the directory of the log file is a file, logging counts as set up without a handler. -/
example :
    let s : State := { files := ⟨[(["logs"], .file [])]⟩ }
    let s' := (s.configure "info" (some "logs/app.log")).2
    s.structured = false ∧ s'.structured = true ∧ s'.handlers = [] := by
  decide

/-- Once logging is set up, attempts that fail leave it alone, however many there are. -/
theorem foldl_configure_of_failing (hset : s.structured = true)
    {attempts : List (String × Option String × String)}
    (hfail : ∀ a ∈ attempts, ∃ e, (s.configure a.1 a.2.1 a.2.2).1 = .error e) :
    attempts.foldl (fun s a => (s.configure a.1 a.2.1 a.2.2).2) s = s := by
  induction attempts with
  | nil => rfl
  | cons a rest ih =>
    obtain ⟨e, he⟩ := hfail a List.mem_cons_self
    have hpair : s.configure a.1 a.2.1 a.2.2 = (.error e, (s.configure a.1 a.2.1 a.2.2).2) := by
      rw [← he]
    -- Once the first set-up has gone through, a failing one leaves the state alone.
    rw [List.foldl_cons, (eq_iff_of_configure_error hpair).mpr (.inr hset)]
    exact ih fun b hb => hfail b (List.mem_cons_of_mem a hb)

end SymbolTags.Log.State
