/-
InlineSearch.Proofs.CommandLine.Passes — a run of the program, text by text.

A run deals with standard input or with one file after the other, each text in
the session that the texts before it have left. A `Pass` is one such text with
its session, and `passes` are those of a run; a file that cannot be read, or
not be written, ends them.

* `Pass.ends` — the ways in which a pass ends, with the session that it leaves.
* `grows_run` — what a pass has printed or told stays until the run is over.
-/
import InlineSearch.CommandLine.Run
import InlineSearch.Proofs.World

namespace InlineSearch

namespace CommandLine

open Session (copy inWorld print tell write)

/-! ## Steps of a run -/

namespace Session

section

variable {α β : Type} {step : Run α} {s s' : Session}

/-- A step that succeeds goes on with what it gives. -/
theorem bind_ok {a : α} (h : step.run.run s = (.ok a, s')) (next : α → Run β) :
    (step >>= next).run.run s = (next a).run.run s' := by
  show (ExceptT.bindCont next (step.run.run s).1).run (step.run.run s).2 = _
  rw [h]
  rfl

/-- A step that fails ends the run. -/
theorem bind_error {e : Failure} (h : step.run.run s = (.error e, s')) (next : α → Run β) :
    (step >>= next).run.run s = (.error e, s') := by
  show (ExceptT.bindCont next (step.run.run s).1).run (step.run.run s).2 = _
  rw [h]
  rfl

end

theorem forM_tell_eq (messages : List Text) (s : Session) :
    (messages.forM tell).run.run s = (.ok (), { s with messages := s.messages ++ messages }) := by
  induction messages generalizing s with
  | nil => rw [List.append_nil]; rfl
  | cons message messages ih =>
    have htell : (tell message).run.run s
        = (.ok (), { s with messages := s.messages ++ [message] }) := rfl
    show (tell message >>= fun _ => messages.forM tell).run.run s = _
    rw [bind_ok htell, ih, List.append_assoc]
    rfl

theorem copy_ok {setup : Setup} (h : setup.clipboardFault = none) (t : Text) (s : Session) :
    (copy setup t).run.run s = (.ok (), { s with clipboard := some t }) := by
  unfold copy
  rw [h]
  rfl

theorem copy_error {setup : Setup} {reason : Text} (h : setup.clipboardFault = some reason)
    (t : Text) (s : Session) : (copy setup t).run.run s = (.error (.clipboard reason), s) := by
  unfold copy
  rw [h]
  rfl

theorem read_ok {path t : Text} {s : Session} (h : s.world.files.read path = .ok t) :
    (read path).run.run s = (.ok t, s) := by
  have hget : (get : Run Session).run.run s = (.ok s, s) := rfl
  unfold read
  rw [bind_ok hget, h]
  rfl

theorem read_error {path : Text} {s : Session} {e : FileError}
    (h : s.world.files.read path = .error e) :
    (read path).run.run s = (.error (.file path e), s) := by
  have hget : (get : Run Session).run.run s = (.ok s, s) := rfl
  unfold read
  rw [bind_ok hget, h]
  rfl

theorem write_ok {path target t : Text} {s : Session} {files : Files}
    (h : s.world.files.write target t = .ok files) :
    (write path target t).run.run s
      = (.ok (), { s with world := { s.world with files } }) := by
  have hget : (get : Run Session).run.run s = (.ok s, s) := rfl
  unfold write
  rw [bind_ok hget, h]
  rfl

theorem write_error {path target t : Text} {s : Session} {e : FileError}
    (h : s.world.files.write target t = .error e) :
    (write path target t).run.run s = (.error (.file path e), s) := by
  have hget : (get : Run Session).run.run s = (.ok s, s) := rfl
  unfold write
  rw [bind_ok hget, h]
  rfl

end Session

/-- The errors of a run that the user is told. -/
def told (config : Config) (r : Linked) : List Text := if config.debug then [] else r.errors

theorem tellErrors_eq (config : Config) (r : Linked) (s : Session) :
    (tellErrors config r).run.run s
      = (.ok (), { s with messages := s.messages ++ told config r }) := by
  unfold tellErrors told
  cases config.debug with
  | true => rw [if_pos rfl, if_pos rfl, List.append_nil]; rfl
  | false => exact Session.forM_tell_eq r.errors s

/-! ## Passes -/

/-- A text that a run deals with: that of a file, or standard input. -/
structure Pass where
  path : Option Text
  input : Text
  /-- The session that the text is dealt with in. -/
  start : Session

namespace Pass

variable (setup : Setup) (options : Options) (config : Config) (p : Pass)

/-- Linking the text. -/
def linking : StateM World Linked :=
  match p.path with
  | none => linkInput setup config p.input
  | some _ => Document.link (Provider.linker config setup.random) p.input

/-- What the text is turned into. -/
def result : Linked := (p.linking setup config p.start.world).1

/-- The session when the text is linked and its errors are told. -/
def linked : Session := { p.start with
  world := (p.linking setup config p.start.world).2
  messages := p.start.messages ++ told config (p.result setup config) }

/-- What the program does with the text. -/
def run : Except Failure Unit × Session :=
  match p.path with
  | none => (runInput { setup with input := p.input } config).run.run p.start
  | some path => (runFile setup options config path).run.run p.start

/-- The ways in which a pass ends. -/
inductive Ends : Except Failure Unit × Session → Prop
  | printed (kept : p.path = none → (p.result setup config).clipboard = false) :
      Ends (.ok (), { p.linked setup config with
        output := p.start.output ++ (p.result setup config).output })
  | copied (text : Text) (wanted : (p.result setup config).clipboard = true)
      (onInput : p.path = none) :
      Ends (.ok (), { p.linked setup config with
        clipboard := some text
        output := p.start.output ++ p.input
        messages := (p.linked setup config).messages ++ ["Copied to clipboard".toList] })
  | uncopied (reason : Text) (wanted : (p.result setup config).clipboard = true)
      (onInput : p.path = none) :
      Ends (.error (.clipboard reason), p.linked setup config)
  | unchanged (path : Text) (onFile : p.path = some path)
      (same : (p.result setup config).output = p.input) :
      Ends (.ok (), { p.linked setup config with
        messages := (p.linked setup config).messages ++ [path ++ ": nothing to rewrite"] })
  | unwritten (path : Text) (e : FileError) (world : World) (onFile : p.path = some path) :
      Ends (.error (.file path e), { p.linked setup config with world })
  | written (path : Text) (files files' : Files) (world : World) (onFile : p.path = some path)
      (write : files.write path (p.result setup config).output = .ok files') :
      Ends (.ok (), { p.linked setup config with
        world := { world with files := files' }
        messages := (p.linked setup config).messages ++
          ["Updated " ++ path ++ " (" ++ Text.ofNat (p.result setup config).links ++ " links)"] })

/-- The text is what is to be read. -/
def Reads : Prop := ∀ path, p.path = some path → p.start.world.files.read path = .ok p.input

/-- Every pass links its text first, and tells the errors. -/
theorem run_linking (next : Linked → Run Unit) :
    (do let r ← inWorld (p.linking setup config); tellErrors config r; next r : Run Unit).run.run
        p.start
      = (next (p.result setup config)).run.run (p.linked setup config) := by
  have hlink : (inWorld (p.linking setup config)).run.run p.start = (.ok (p.result setup config),
      { p.start with world := (p.linking setup config p.start.world).2 }) := rfl
  rw [Session.bind_ok hlink, Session.bind_ok (tellErrors_eq ..)]
  rfl

theorem run_input (h : p.path = none) : p.run setup options config =
    (if (p.result setup config).clipboard then do
        copy setup (Text.trimEnd (p.result setup config).output)
        print p.input
        tell "Copied to clipboard"
      else print (p.result setup config).output : Run Unit).run.run (p.linked setup config) := by
  have hlinking : p.linking setup config = linkInput setup config p.input := by
    unfold linking
    rw [h]
  unfold run
  rw [h, ← p.run_linking setup config fun r => if r.clipboard then do
      copy setup (Text.trimEnd r.output)
      print p.input
      tell "Copied to clipboard"
    else print r.output, hlinking]
  rfl

theorem run_file {path : Text} (h : p.path = some path)
    (hread : p.start.world.files.read path = .ok p.input) : p.run setup options config =
    (if options.has .stdout then print (p.result setup config).output
      else if (p.result setup config).output = p.input then tell (path ++ ": nothing to rewrite")
      else do
        if config.backup then write path (copyPath path) p.input
        write path path (p.result setup config).output
        tell ("Updated " ++ path ++ " (" ++ Text.ofNat (p.result setup config).links ++ " links)")
      : Run Unit).run.run (p.linked setup config) := by
  have hlinking : p.linking setup config
      = Document.link (Provider.linker config setup.random) p.input := by
    unfold linking
    rw [h]
  unfold run
  rw [h, ← p.run_linking setup config fun r =>
    if options.has .stdout then print r.output
    else if r.output = p.input then tell (path ++ ": nothing to rewrite")
    else do
      if config.backup then write path (copyPath path) p.input
      write path path r.output
      tell ("Updated " ++ path ++ " (" ++ Text.ofNat r.links ++ " links)"), hlinking]
  exact Session.bind_ok (Session.read_ok hread) _

theorem ends_input (h : p.path = none) : p.Ends setup config (p.run setup options config) := by
  rw [p.run_input setup options config h]
  split
  · next hclipboard =>
    rcases Option.eq_none_or_eq_some setup.clipboardFault with hfault | ⟨reason, hfault⟩
    · rw [Session.bind_ok (Session.copy_ok hfault ..)]
      exact .copied _ hclipboard h
    · rw [Session.bind_error (Session.copy_error hfault ..)]
      exact .uncopied reason hclipboard h
  · next hclipboard => exact .printed fun _ => Bool.eq_false_iff.2 hclipboard

theorem ends_overwritten {path : Text} (h : p.path = some path) (world : World) :
    p.Ends setup config ((do
      write path path (p.result setup config).output
      tell ("Updated " ++ path ++ " (" ++ Text.ofNat (p.result setup config).links ++ " links)")
      : Run Unit).run.run { p.linked setup config with world }) := by
  cases hwrite : world.files.write path (p.result setup config).output with
  | ok files' =>
    rw [Session.bind_ok (Session.write_ok hwrite)]
    exact .written path world.files files' world h hwrite
  | error e =>
    rw [Session.bind_error (Session.write_error hwrite)]
    exact .unwritten path e world h

theorem ends_file {path : Text} (h : p.path = some path)
    (hread : p.start.world.files.read path = .ok p.input) :
    p.Ends setup config (p.run setup options config) := by
  rw [p.run_file setup options config h hread]
  split
  · exact .printed fun hnone => absurd (hnone.symm.trans h) (by simp)
  split
  · next hsame => exact .unchanged path h hsame
  -- The copy is made first, and without it the file is left alone.
  dsimp only
  split
  · cases hcopy : (p.linked setup config).world.files.write (copyPath path) p.input with
    | ok files =>
      rw [Session.bind_ok (Session.write_ok hcopy)]
      exact p.ends_overwritten setup config h _
    | error e =>
      rw [Session.bind_error (Session.write_error hcopy)]
      exact .unwritten path e (p.linked setup config).world h
  · exact p.ends_overwritten setup config h (p.linked setup config).world

/-- **How a pass ends.** -/
theorem ends (h : p.Reads) : p.Ends setup config (p.run setup options config) := by
  cases hpath : p.path with
  | none => exact p.ends_input setup options config hpath
  | some path => exact p.ends_file setup options config hpath (h path hpath)

end Pass

/-! ## What stays -/

/-- What was printed and told stays. -/
structure Session.Grows (s s' : Session) : Prop where
  messages : s.messages <+: s'.messages
  output : s.output <+: s'.output

theorem Session.Grows.refl (s : Session) : s.Grows s := ⟨List.prefix_refl _, List.prefix_refl _⟩

theorem Session.Grows.trans {s t u : Session} (h : s.Grows t) (h' : t.Grows u) : s.Grows u :=
  ⟨h.messages.trans h'.messages, h.output.trans h'.output⟩

namespace Pass

variable {setup : Setup} {options : Options} {config : Config} {p : Pass}

theorem Ends.messages {after : Except Failure Unit × Session} (h : p.Ends setup config after) :
    (p.linked setup config).messages <+: after.2.messages := by
  cases h with
  | printed => exact List.prefix_refl _
  | copied => exact List.prefix_append ..
  | uncopied => exact List.prefix_refl _
  | unchanged => exact List.prefix_append ..
  | unwritten => exact List.prefix_refl _
  | written => exact List.prefix_append ..

theorem Ends.grows {after : Except Failure Unit × Session} (h : p.Ends setup config after) :
    p.start.Grows after.2 where
  messages := (List.prefix_append ..).trans h.messages
  output := by
    cases h with
    | printed => exact List.prefix_append ..
    | copied => exact List.prefix_append ..
    | uncopied => exact List.prefix_refl _
    | unchanged => exact List.prefix_refl _
    | unwritten => exact List.prefix_refl _
    | written => exact List.prefix_refl _

end Pass

/-! ## The passes of a run -/

section

variable (setup : Setup) (options : Options) (config : Config)

/-- The passes of a run over files. A file that cannot be read or written ends
the run. -/
def filePasses : List Text → Session → List Pass
  | [], _ => []
  | path :: paths, s =>
    match s.world.files.read path with
    | .error _ => []
    | .ok input =>
      ⟨some path, input, s⟩ :: match (Pass.mk (some path) input s).run setup options config with
        | (.ok (), s) => filePasses paths s
        | (.error _, _) => []

/-- The passes of a run. -/
def passes (world : World) : List Pass :=
  if options.files.isEmpty then [⟨none, setup.input, { world }⟩]
  else filePasses setup options config options.files { world }

/-- The options and the configuration of a run that deals with texts. -/
def settings? (arguments : List Text) (world : World) : Option (Options × Config) :=
  match Options.ofArguments setup.env arguments with
  | .error _ => none
  | .ok options =>
    match Config.load setup.env world.files world.home options.config with
    | .error _ => none
    | .ok config =>
      if options.has .listSearches then none else some (options, overridden options config)

end

section

variable {setup : Setup} {options : Options} {config : Config}

/-- A run over files fails at a file that cannot be read. -/
theorem forM_runFile_of_unread {path : Text} {s : Session} {e : FileError}
    (h : s.world.files.read path = .error e) (paths : List Text) :
    ((path :: paths).forM (runFile setup options config)).run.run s = (.error (.file path e), s) :=
  Session.bind_error (Session.bind_error (Session.read_error h) _) _

theorem reads_of_mem_filePasses {p : Pass} {paths : List Text} {s : Session}
    (h : p ∈ filePasses setup options config paths s) : p.Reads := by
  induction paths generalizing s with
  | nil => simp [filePasses] at h
  | cons path paths ih =>
    unfold filePasses at h
    split at h
    · simp at h
    · next input hread =>
      rcases List.mem_cons.1 h with rfl | h
      · rintro _ ⟨⟩
        exact hread
      · split at h
        · exact ih h
        · simp at h

theorem reads_of_mem_passes {p : Pass} {world : World}
    (h : p ∈ passes setup options config world) : p.Reads := by
  unfold passes at h
  split at h
  · rw [List.mem_singleton.1 h]
    intro path hpath
    cases hpath
  · exact reads_of_mem_filePasses h

/-- Files add to what was printed and told, and nothing of it is lost. -/
theorem grows_files (paths : List Text) (s : Session) :
    s.Grows ((paths.forM (runFile setup options config)).run.run s).2
      ∧ ∀ p ∈ filePasses setup options config paths s,
        (p.run setup options config).2.Grows
          ((paths.forM (runFile setup options config)).run.run s).2 := by
  induction paths generalizing s with
  | nil => exact ⟨.refl s, by simp [filePasses]⟩
  | cons path paths ih =>
    unfold filePasses
    cases hread : s.world.files.read path with
    | error e =>
      rw [forM_runFile_of_unread hread]
      exact ⟨.refl s, by simp⟩
    | ok input =>
      have hends := Pass.ends setup options config ⟨some path, input, s⟩ fun _ hpath =>
        Option.some.inj hpath ▸ hread
      have hgrows := hends.grows
      dsimp only
      cases hrun : (Pass.mk (some path) input s).run setup options config with
      | mk outcome s' =>
        rw [hrun] at hgrows
        cases outcome with
        | ok done =>
          obtain ⟨hlater, hpasses⟩ := ih s'
          have hforM : ((path :: paths).forM (runFile setup options config)).run.run s
              = (paths.forM (runFile setup options config)).run.run s' :=
            Session.bind_ok (a := done) hrun _
          rw [hforM]
          refine ⟨hgrows.trans hlater, fun p hp => ?_⟩
          rcases List.mem_cons.1 hp with rfl | hp
          · rw [hrun]
            exact hlater
          · exact hpasses p hp
        | error e =>
          have hforM : ((path :: paths).forM (runFile setup options config)).run.run s
              = (.error e, s') := Session.bind_error hrun _
          rw [hforM]
          refine ⟨hgrows, fun p hp => ?_⟩
          rw [List.mem_singleton.1 hp, hrun]
          exact .refl s'

/-- A run that deals with texts does nothing else. -/
theorem execute_eq {arguments : List Text} {world : World}
    (h : settings? setup arguments world = some (options, config)) :
    Options.ofArguments setup.env arguments = .ok options
      ∧ (execute setup options).run.run { world }
        = (if options.files.isEmpty then runInput setup config
          else options.files.forM (runFile setup options config) : Run Unit).run.run { world } := by
  unfold settings? at h
  split at h
  · simp at h
  · next asked hasked =>
    split at h
    · simp at h
    · next loaded hloaded =>
      split at h
      · simp at h
      · next hlist =>
        obtain ⟨rfl, rfl⟩ := Prod.mk.inj (Option.some.inj h)
        have hconfig : (configuration setup asked).run.run { world }
            = (.ok (overridden asked loaded), { world }) := by
          have hget : (get : Run Session).run.run { world } = (.ok { world }, { world }) := rfl
          unfold configuration
          rw [Session.bind_ok hget]
          dsimp only
          rw [hloaded]
          rfl
        refine ⟨hasked, ?_⟩
        unfold execute
        rw [Session.bind_ok hconfig, if_neg hlist]

/-- **What a pass printed and told is there when the run is over.** -/
theorem grows_run {arguments : List Text} {world : World}
    (h : settings? setup arguments world = some (options, config)) {p : Pass}
    (hp : p ∈ passes setup options config world) :
    (p.run setup options config).2.Grows (CommandLine.run setup arguments world).2 := by
  obtain ⟨hoptions, hexecute⟩ := execute_eq h
  have hpass : (p.run setup options config).2.Grows
      ((execute setup options).run.run { world }).2 := by
    rw [hexecute]
    unfold passes at hp
    split at hp
    · next hempty =>
      rw [List.mem_singleton.1 hp, if_pos hempty]
      exact .refl _
    · next hfiles =>
      rw [if_neg hfiles]
      exact (grows_files options.files { world }).2 p hp
  refine hpass.trans ?_
  unfold CommandLine.run
  rw [hoptions]
  dsimp only
  split
  · next s hrun =>
    rw [hrun]
    exact .refl s
  · next e s hrun =>
    rw [hrun]
    exact ⟨List.prefix_append .., List.prefix_refl _⟩

end

end CommandLine

end InlineSearch
