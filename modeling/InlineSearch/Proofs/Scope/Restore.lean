/-
InlineSearch.Proofs.Scope.Restore — closing scopes after single changes.

How closing scopes goes with each way to change a scope: a setting that fits
its option can as well be made after the closing (`restore_setForGood`), flags
need not be applied at all if their scope is closed (`restore_setFlags`), and
where a frame was made to record a value that does not fit, the flag stays
(`get_settled_of_overwritten`).
-/
import InlineSearch.Proofs.Scope

namespace InlineSearch

/-! ## Options as cells -/

namespace Config

instance (key : Key) : (value : Value) → Decidable (value.Fits key)
  | .flag _ => inferInstanceAs (Decidable (_ = _))
  | .text _ => inferInstanceAs (Decidable (_ = _))

/-- A value that does not fit its option changes nothing. -/
theorem set_misfit (config : Config) {key : Key} {value : Value} (h : ¬ value.Fits key) :
    config.set key value = config := by
  cases key <;> cases value <;> first | rfl | exact absurd rfl h

theorem get_set (config : Config) {key : Key} {value : Value} (h : value.Fits key) :
    (config.set key value).get key = value := by
  cases key <;> cases value <;> first | rfl | cases h

theorem get_set_other (config : Config) {key other : Key} (h : other ≠ key) (value : Value) :
    (config.set other value).get key = config.get key := by
  cases key <;> cases other <;> first | exact absurd rfl h | (cases value <;> rfl)

/-- Flags are settings of their options. -/
theorem withFlags_eq (config : Config) (flags : List Directive.Flag) :
    config.withFlags flags = config.withSettings (flags.map fun (key, on) => (key, .flag on)) := by
  rw [withSettings, List.foldl_map]
  rfl

end Config

namespace Scope

open Config (Key Value)

/-! ## Closing scopes -/

theorem restore_of_le {s : Scope} {depth : Nat} (h : s.depth ≤ depth) : s.restore depth = s := by
  unfold restore
  rw [Nat.sub_eq_zero_of_le h]
  rfl

theorem restore_nil (config : Config) (depth : Nat) : restore { config } depth = { config } :=
  restore_of_le (Nat.zero_le _)

/-- Closing goes from the innermost scope outwards. -/
theorem restore_cons {config : Config} {frame : Frame} {outer : List Frame} {depth : Nat}
    (h : depth ≤ outer.length) :
    restore { config, frames := frame :: outer } depth
      = restore { config := putBack config frame, frames := outer } depth := by
  have hone : (frame :: outer).length - depth = outer.length - depth + 1 := by
    rw [List.length_cons]
    omega
  unfold restore Scope.depth
  rw [hone]
  rfl

theorem frames_restore (s : Scope) (depth : Nat) :
    (s.restore depth).frames = s.frames.drop (s.depth - depth) := rfl

theorem depth_restore (s : Scope) (depth : Nat) :
    (s.restore depth).depth = min s.depth depth := by
  rw [Scope.depth, frames_restore, List.length_drop]
  unfold Scope.depth
  omega

theorem settled_eq (config : Config) (frames : List Frame) :
    settled { config, frames } = frames.foldl putBack config :=
  congrArg (List.foldl putBack config) (List.take_length (l := frames))

/-- Of two depths to restore the smaller one counts. -/
theorem restore_restore (s : Scope) (depth depth' : Nat) :
    (s.restore depth).restore depth' = s.restore (min depth depth') := by
  obtain ⟨config, frames⟩ := s
  induction frames generalizing config with
  | nil => rw [restore_nil, restore_nil, restore_nil]
  | cons frame outer ih =>
    by_cases hle : (frame :: outer).length ≤ depth
    · rw [restore_of_le (s := ⟨config, frame :: outer⟩) hle]
      by_cases hle' : depth ≤ depth'
      · rw [Nat.min_eq_left hle', restore_of_le (s := ⟨config, frame :: outer⟩) hle,
          restore_of_le (s := ⟨config, frame :: outer⟩) (Nat.le_trans hle hle')]
      · rw [Nat.min_eq_right (by omega)]
    · have hlt : depth ≤ outer.length := by
        rw [List.length_cons] at hle
        omega
      rw [restore_cons hlt, restore_cons (Nat.le_trans (Nat.min_le_left ..) hlt), ih]

/-! ## Settings for good -/

/-- A frame has recorded the value of an option. -/
def Records (s : Scope) (key : Key) : Prop := ∃ frame ∈ s.frames, ∃ entry ∈ frame, entry.1 = key

theorem fits_overwrite {frame : Frame} (h : Frame.Fits frame) {key : Key} {value : Value}
    (hvalue : value.Fits key) : Frame.Fits (overwrite key value frame) := by
  intro entry hentry
  obtain ⟨⟨recorded, prior⟩, hmem, rfl⟩ := List.mem_map.1 hentry
  dsimp only
  split
  · next hkey => exact hkey ▸ hvalue
  · exact h _ hmem

/-- A setting that fits stays when a frame is closed. -/
theorem putBack_overwrite {key : Key} {value : Value} (hvalue : value.Fits key)
    (config : Config) (frame : Frame) :
    putBack (config.set key value) (overwrite key value frame)
      = (putBack config frame).set key value := by
  induction frame generalizing config with
  | nil => rfl
  | cons entry rest ih =>
    obtain ⟨recorded, prior⟩ := entry
    show putBack ((config.set key value).set recorded (if recorded = key then value else prior))
      (overwrite key value rest) = (putBack (config.set recorded prior) rest).set key value
    rw [← ih]
    by_cases hkey : recorded = key
    · subst hkey
      rw [if_pos rfl, Config.set_set config value hvalue, Config.set_set config prior hvalue]
    · rw [if_neg hkey, Config.set_comm config hkey]

/-- A setting that fits stays at every depth. -/
theorem restore_setForGood (s : Scope) {key : Key} {value : Value} (hvalue : value.Fits key)
    (depth : Nat) :
    (s.setForGood key value).restore depth = (s.restore depth).setForGood key value := by
  obtain ⟨config, frames⟩ := s
  induction frames generalizing config with
  | nil =>
    rw [restore_nil]
    exact restore_nil ..
  | cons frame outer ih =>
    by_cases hle : (frame :: outer).length ≤ depth
    · rw [restore_of_le (s := ⟨config, frame :: outer⟩) hle, restore_of_le]
      exact Nat.le_trans (Nat.le_of_eq (List.length_map ..)) hle
    · have hlt : depth ≤ outer.length := by
        rw [List.length_cons] at hle
        omega
      have hlt' : depth ≤ (outer.map (overwrite key value)).length := by rwa [List.length_map]
      have hset : setForGood ⟨putBack config frame, outer⟩ key value
          = ⟨putBack (config.set key value) (overwrite key value frame),
            outer.map (overwrite key value)⟩ := by
        rw [putBack_overwrite hvalue]
        rfl
      rw [restore_cons hlt, ← ih, hset]
      exact restore_cons hlt'

/-- A setting that does not fit changes nothing, unless a frame has recorded
the option. -/
theorem setForGood_misfit {s : Scope} {key : Key} {value : Value} (hvalue : ¬ value.Fits key)
    (hrecords : ¬ s.Records key) : s.setForGood key value = s := by
  have hframe : ∀ frame ∈ s.frames, overwrite key value frame = frame := by
    intro frame hframe
    refine (List.map_congr_left fun entry hentry => ?_).trans (List.map_id _)
    have hkey : entry.1 ≠ key := fun hkey => hrecords ⟨frame, hframe, entry, hentry, hkey⟩
    exact Prod.ext rfl (if_neg hkey)
  have hframes : s.frames.map (overwrite key value) = s.frames :=
    (List.map_congr_left hframe).trans (List.map_id _)
  unfold setForGood
  rw [Config.set_misfit _ hvalue, hframes]

theorem records_setForGood (s : Scope) (key : Key) (value : Value) (other : Key) :
    (s.setForGood key value).Records other ↔ s.Records other := by
  constructor
  · rintro ⟨_, hset, _, hput, hkey⟩
    obtain ⟨frame, hframe, rfl⟩ := List.mem_map.1 hset
    obtain ⟨entry, hentry, rfl⟩ := List.mem_map.1 hput
    exact ⟨frame, hframe, entry, hentry, hkey⟩
  · rintro ⟨frame, hframe, entry, hentry, hkey⟩
    exact ⟨_, List.mem_map_of_mem hframe, _, List.mem_map_of_mem hentry, hkey⟩

/-! ## Flags -/

/-- Flags leave values that fit in a frame, and record their options besides
those that it had. -/
theorem switches_frame (config : Config) {frame : Frame} (h : Frame.Fits frame)
    (flags : List Directive.Flag) :
    Frame.Fits (flags.foldl switch (config, frame)).2
      ∧ ∀ key, (∃ entry ∈ (flags.foldl switch (config, frame)).2, entry.1 = key)
        ↔ (∃ entry ∈ frame, entry.1 = key) ∨ ∃ flag ∈ flags, flag.1 = key := by
  induction flags generalizing config frame with
  | nil => simp [h]
  | cons flag flags ih =>
    have hone : ∀ key, (∃ entry ∈ (switch (config, frame) flag).2, entry.1 = key)
        ↔ (∃ entry ∈ frame, entry.1 = key) ∨ flag.1 = key := by
      intro key
      unfold switch
      dsimp only
      split
      · next hany =>
        obtain ⟨entry, hentry, hkey⟩ := List.any_eq_true.1 hany
        refine ⟨.inl, ?_⟩
        rintro (hrecorded | rfl)
        · exact hrecorded
        · exact ⟨entry, hentry, beq_iff_eq.1 hkey⟩
      · simp [or_comm]
    obtain ⟨hfits, hkeys⟩ := ih (switch (config, frame) flag).1 (putBack_switch config h flag).2
    refine ⟨hfits, fun key => ?_⟩
    rw [List.foldl_cons, hkeys key, hone key, or_assoc]
    simp only [List.mem_cons, exists_eq_or_imp]

section

variable {s : Scope} (hfits : ∀ frame ∈ s.frames, Frame.Fits frame) (flags : List Directive.Flag)

theorem depth_setFlags (s : Scope) : (s.setFlags flags).depth = s.depth := by
  obtain ⟨config, frames⟩ := s
  cases frames <;> rfl

theorem config_setFlags (h : 0 < s.depth) :
    (s.setFlags flags).config = s.config.withFlags flags := by
  obtain ⟨config, frames⟩ := s
  cases frames with
  | nil => exact absurd h (Nat.lt_irrefl 0)
  | cons frame outer => exact config_switches config frame flags

include hfits

theorem fits_setFlags : ∀ frame ∈ (s.setFlags flags).frames, Frame.Fits frame := by
  obtain ⟨config, frames⟩ := s
  cases frames with
  | nil => exact hfits
  | cons frame outer =>
    intro other hother
    rcases List.mem_cons.1 hother with rfl | hother
    · exact (switches_frame config (hfits frame (List.mem_cons_self ..)) flags).1
    · exact hfits other (List.mem_cons_of_mem _ hother)

theorem records_setFlags (h : 0 < s.depth) (key : Key) :
    (s.setFlags flags).Records key ↔ s.Records key ∨ ∃ flag ∈ flags, flag.1 = key := by
  obtain ⟨config, frames⟩ := s
  cases frames with
  | nil => exact absurd h (Nat.lt_irrefl 0)
  | cons frame outer =>
    have hkeys := (switches_frame config (hfits frame (List.mem_cons_self ..)) flags).2 key
    simp only [Records, setFlags, List.mem_cons, exists_eq_or_imp, hkeys]
    rw [or_assoc, or_assoc, or_comm (a := ∃ flag ∈ flags, flag.1 = key)]

/-- Flags in an open scope are gone where the scope is closed. -/
theorem restore_setFlags {depth : Nat} (h : depth < s.depth) :
    (s.setFlags flags).restore depth = s.restore depth := by
  obtain ⟨config, frames⟩ := s
  cases frames with
  | nil => exact absurd h (Nat.not_lt_zero _)
  | cons frame outer =>
    have hle : depth ≤ outer.length := Nat.le_of_lt_succ h
    have hset : setFlags ⟨config, frame :: outer⟩ flags
        = ⟨(flags.foldl switch (config, frame)).1,
          (flags.foldl switch (config, frame)).2 :: outer⟩ := rfl
    rw [hset, restore_cons hle, restore_cons hle,
      putBack_switches (hfits frame (List.mem_cons_self ..))]

end

/-! ## Values that are put back in vain -/

/-- Closing a frame leaves an option alone that it has recorded with values
that do not fit, if at all. -/
theorem get_putBack {frame : Frame} {key : Key}
    (h : ∀ entry ∈ frame, entry.1 = key → ¬ entry.2.Fits key) (config : Config) :
    (putBack config frame).get key = config.get key := by
  induction frame generalizing config with
  | nil => rfl
  | cons entry rest ih =>
    obtain ⟨recorded, prior⟩ := entry
    show (putBack (config.set recorded prior) rest).get key = _
    rw [ih fun entry hentry => h entry (List.mem_cons_of_mem _ hentry)]
    by_cases hkey : recorded = key
    · subst hkey
      rw [Config.set_misfit _ (h _ (List.mem_cons_self ..) rfl)]
    · exact Config.get_set_other config hkey prior

/-- Where a frame holds a value that does not fit, a flag of that option in the
same frame stays for good. -/
theorem get_settled_of_overwritten {key : Key} (hkey : key ∈ Key.flags) {value : Value}
    (hvalue : ¬ value.Fits key) {s : Scope} {frame : Frame} {outer : List Frame}
    (hframes : s.frames = (frame :: outer).map (overwrite key value))
    (hrecorded : ∃ entry ∈ frame, entry.1 = key) (on : Bool) :
    (s.setFlags [(key, on)]).settled.get key = .flag on := by
  obtain ⟨config, frames⟩ := s
  have hfits : (Value.flag on).Fits key := by
    have hflag : ∀ key ∈ Key.flags, key.isFlag = true := by decide
    exact hflag key hkey
  subst hframes
  have hany : (overwrite key value frame).any (·.1 == key) = true := by
    obtain ⟨entry, hentry, rfl⟩ := hrecorded
    exact List.any_eq_true.2 ⟨_, List.mem_map_of_mem hentry, beq_self_eq_true _⟩
  have hset : setFlags ⟨config, (frame :: outer).map (overwrite key value)⟩ [(key, on)]
      = ⟨config.set key (.flag on), (frame :: outer).map (overwrite key value)⟩ := by
    simp only [setFlags, List.map_cons, List.foldl_cons, List.foldl_nil, switch, if_pos hany]
  have hclosed : ∀ (frames : List Frame) (config : Config),
      ((frames.map (overwrite key value)).foldl putBack config).get key = config.get key := by
    intro frames
    induction frames with
    | nil => exact fun _ => rfl
    | cons frame frames ih =>
      intro config
      rw [List.map_cons, List.foldl_cons, ih]
      refine get_putBack (fun entry hentry hkey => ?_) config
      obtain ⟨⟨recorded, prior⟩, -, rfl⟩ := List.mem_map.1 hentry
      dsimp only at hkey ⊢
      rwa [if_pos hkey]
  rw [hset, settled_eq, hclosed, Config.get_set config hfits]

end Scope

end InlineSearch
