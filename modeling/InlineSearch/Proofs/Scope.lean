/-
InlineSearch.Proofs.Scope — closing a line undoes its flags.

Options are independent cells of a configuration: setting one twice keeps
the last value, and two different ones can be set in either order. So a
frame that has recorded the value of each option before its first change
gives the configuration back as it was, however many flags have come in
between (`restore_setFlags_openLine`). While the line is open the
configuration is that of before with the flags set one after the other
(`config_setFlags_openLine`).
-/
import InlineSearch.Scope

namespace InlineSearch

/-! ## Options as cells -/

namespace Config

/-- The value has the shape that the option takes. -/
def Value.Fits (key : Key) : Value → Prop
  | .flag _ => key.isFlag = true
  | .text _ => key.isFlag = false

theorem get_fits (config : Config) (key : Key) : (config.get key).Fits key := by
  cases key <;> rfl

theorem set_get (config : Config) (key : Key) : config.set key (config.get key) = config := by
  cases key <;> rfl

/-- The last value that an option is set to counts, if the option takes it. -/
theorem set_set (config : Config) {key : Key} (value : Value) {last : Value}
    (h : last.Fits key) : (config.set key value).set key last = config.set key last := by
  cases key <;> cases value <;> cases last <;> first | rfl | cases h

/-- Different options can be set in either order. -/
theorem set_comm (config : Config) {key other : Key} (h : key ≠ other) (value value' : Value) :
    (config.set key value).set other value' = (config.set other value').set key value := by
  cases key <;> cases other <;> first | exact absurd rfl h | (cases value <;> cases value' <;> rfl)

/-- The configuration with options set, one after the other. -/
def withSettings (config : Config) (settings : List (Key × Value)) : Config :=
  settings.foldl (fun config (key, value) => config.set key value) config

/-- The configuration with options switched, one after the other. -/
def withFlags (config : Config) (flags : List Directive.Flag) : Config :=
  flags.foldl (fun config (key, on) => config.set key (.flag on)) config

theorem withSettings_append (config : Config) (settings later : List (Key × Value)) :
    config.withSettings (settings ++ later)
      = (config.withSettings settings).withSettings later :=
  List.foldl_append

end Config

/-! ## Frames -/

/-- A frame holds values that their options take. -/
def Frame.Fits (frame : Frame) : Prop := ∀ entry ∈ frame, entry.2.Fits entry.1

namespace Scope

open Config (Key Value)

/-- A change to an option that the frame has recorded does not outlive the
frame. -/
theorem putBack_set {frame : Frame} (h : Frame.Fits frame) {key : Key}
    (hrecorded : frame.any (·.1 == key) = true) (config : Config) (value : Value) :
    putBack (config.set key value) frame = putBack config frame := by
  induction frame generalizing config with
  | nil => simp at hrecorded
  | cons entry rest ih =>
    obtain ⟨recorded, prior⟩ := entry
    have hprior : prior.Fits recorded := h _ (List.mem_cons_self ..)
    have hrest : Frame.Fits rest := fun e he => h e (List.mem_cons_of_mem _ he)
    show putBack ((config.set key value).set recorded prior) rest
      = putBack (config.set recorded prior) rest
    by_cases hkey : recorded = key
    · subst hkey
      rw [Config.set_set config value hprior]
    · have hlater : rest.any (·.1 == key) = true := by simpa [hkey] using hrecorded
      rw [Config.set_comm config (Ne.symm hkey)]
      exact ih hrest hlater _

/-- A flag changes nothing that stays when the frame is closed. -/
theorem putBack_switch (config : Config) {frame : Frame} (h : Frame.Fits frame)
    (flag : Directive.Flag) :
    putBack (switch (config, frame) flag).1 (switch (config, frame) flag).2 = putBack config frame
      ∧ Frame.Fits (switch (config, frame) flag).2 := by
  obtain ⟨key, on⟩ := flag
  unfold switch
  dsimp only
  split
  · next hrecorded => exact ⟨putBack_set h hrecorded config _, h⟩
  · -- The value from before is recorded now, and put back first.
    refine ⟨?_, ?_⟩
    · show putBack ((config.set key (.flag on)).set key (config.get key)) frame = _
      rw [Config.set_set config _ (config.get_fits key), config.set_get key]
    · intro entry hentry
      rcases List.mem_cons.1 hentry with rfl | hentry
      · exact config.get_fits key
      · exact h entry hentry

/-- No number of flags changes what stays when the frame is closed. -/
theorem putBack_switches {config : Config} {frame : Frame} (h : Frame.Fits frame)
    (flags : List Directive.Flag) :
    putBack (flags.foldl switch (config, frame)).1 (flags.foldl switch (config, frame)).2
      = putBack config frame := by
  induction flags generalizing config frame with
  | nil => rfl
  | cons flag flags ih =>
    obtain ⟨hback, hfits⟩ := putBack_switch config h flag
    rw [List.foldl_cons, ← hback]
    exact ih hfits

/-- Whatever a frame records, the flags are set one after the other. -/
theorem config_switches (config : Config) (frame : Frame) (flags : List Directive.Flag) :
    (flags.foldl switch (config, frame)).1 = config.withFlags flags := by
  induction flags generalizing config frame with
  | nil => rfl
  | cons flag flags ih => exact ih ..

/-! ## Lines -/

theorem setFlags_nil (s : Scope) : s.setFlags [] = s := by
  obtain ⟨config, frames⟩ := s
  cases frames <;> rfl

/-- Flags can be applied in parts. -/
theorem setFlags_append (s : Scope) (flags later : List Directive.Flag) :
    s.setFlags (flags ++ later) = (s.setFlags flags).setFlags later := by
  obtain ⟨config, frames⟩ := s
  cases frames with
  | nil => rfl
  | cons frame outer => simp only [setFlags, List.foldl_append]

/-- On an open line the flags count, in their order. -/
theorem config_setFlags_openLine (s : Scope) (flags : List Directive.Flag) :
    (s.openLine.setFlags flags).config = s.config.withFlags flags :=
  config_switches s.config [] flags

/-- Closing one frame puts its values back. -/
theorem restore_frame (config : Config) (frame : Frame) (outer : List Frame) :
    restore { config, frames := frame :: outer } outer.length
      = { config := putBack config frame, frames := outer } := by
  have hone : (frame :: outer).length - outer.length = 1 := by simp
  unfold restore depth
  rw [hone]
  rfl

/-- **Behind its line a flag leaves no trace.** -/
theorem restore_setFlags_openLine (s : Scope) (flags : List Directive.Flag) :
    (s.openLine.setFlags flags).restore s.depth = s := by
  have hopen : s.openLine.setFlags flags = { config := (flags.foldl switch (s.config, [])).1
                                             frames := (flags.foldl switch (s.config, [])).2
                                               :: s.frames } := rfl
  have hempty : Frame.Fits [] := by simp [Frame.Fits]
  rw [hopen, depth, restore_frame, putBack_switches hempty]
  rfl

end Scope

end InlineSearch
