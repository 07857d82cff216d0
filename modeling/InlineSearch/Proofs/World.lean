/-
InlineSearch.Proofs.World — what a lookup finds, and what it leaves.

A document is asked for with one request, and what is found is what the network
answers at that moment (`World.data_eq`). A text that is written to a place or
under a path is read there (`Files.readAt_writeAt`, `Files.read_write`), and a
write that is not possible changes nothing (`World.tryWrite_error`).
-/
import InlineSearch.World.Basic

namespace InlineSearch

/-! ## Files -/

namespace Files

/-- What was written is read. -/
theorem readAt_writeAt {f f' : Files} {place : Path} {t : Text}
    (h : f.writeAt place t = .ok f') : f'.readAt place = .ok t := by
  unfold writeAt at h
  split at h
  · cases h
  · next hdirectory =>
    split at h
    · cases h
    · cases h
      -- A file that is written makes its place no directory.
      have hnone : isDirectory
          { f with entries := (place, some t) :: f.entries.filter (fun e => e.1 != place) } place
          = false := by
        simp only [isDirectory, Bool.or_eq_true, not_or, Bool.not_eq_true,
          List.any_eq_false] at hdirectory
        obtain ⟨⟨⟨hupward, hroot⟩, hlisted⟩, hbelow⟩ := hdirectory
        simp only [isDirectory, hupward, hroot, hlisted, Bool.false_or, List.any_cons,
          Bool.or_eq_false_iff, List.any_eq_false]
        exact ⟨by simp, fun entry hentry =>
          Bool.eq_false_iff.1 (hbelow entry (List.mem_filter.1 hentry).1)⟩
      unfold readAt
      rw [hnone]
      simp

/-- A place that is a directory stays one when a file is written. -/
theorem isDirectory_writeAt {f f' : Files} {place p : Path} {t : Text}
    (h : f.writeAt place t = .ok f') (hp : f.isDirectory p = true) : f'.isDirectory p = true := by
  unfold writeAt at h
  split at h
  · cases h
  · split at h
    · cases h
    · cases h
      simp only [isDirectory, Bool.or_eq_true, List.any_eq_true, List.any_cons] at hp ⊢
      refine hp.imp_right fun ⟨entry, hentry, hbelow⟩ => ?_
      by_cases hplace : entry.1 = place
      · exact .inl (hplace ▸ hbelow)
      · exact .inr ⟨entry, List.mem_filter.2 ⟨hentry, bne_iff_ne.2 hplace⟩, hbelow⟩

theorem walk_writeAt {f f' : Files} {place : Path} {t : Text} (h : f.writeAt place t = .ok f')
    {directory : Path} {names : List Text} {found : Path}
    (hwalk : f.walk directory names = .ok found) : f'.walk directory names = .ok found := by
  fun_induction Files.walk f directory names with
  | case1 directory => exact hwalk
  | case2 directory names ih => exact ih hwalk
  | case3 directory names ih => exact ih hwalk
  | case4 directory names ih => exact ih hwalk
  | case5 => cases hwalk
  | case6 directory name names hempty hdot hup at_name hshort hlast =>
    rw [walk, if_neg hshort, if_pos hlast]
    · exact hwalk
    all_goals assumption
  | case7 directory name names hempty hdot hup at_name hshort hmore hdirectory ih =>
    rw [walk, if_neg hshort, if_neg hmore, if_pos (isDirectory_writeAt h hdirectory)]
    · exact ih hwalk
    all_goals assumption
  | case8 => cases hwalk

/-- What was written under a path is read there. -/
theorem read_write {f f' : Files} {path t : Text} (h : f.write path t = .ok f') :
    f'.read path = .ok t := by
  unfold write at h
  unfold read
  cases hlocate : f.locate path with
  | error e =>
    rw [hlocate] at h
    cases h
  | ok place =>
    rw [hlocate] at h
    have hwritten : f.writeAt place t = .ok f' := h
    have hlocate' : f'.locate path = .ok place := by
      unfold locate at hlocate ⊢
      split at hlocate
      · cases hlocate
      · next hempty =>
        split at hlocate
        · cases hlocate
        · next hlong =>
          rw [if_neg hempty, if_neg hlong]
          exact walk_writeAt hwritten hlocate
    rw [hlocate']
    exact readAt_writeAt hwritten

end Files

namespace World

/-! ## Steps -/

section

variable {ε α β : Type} {step : ExceptT ε (StateM World) α} {w w' : World}

/-- A step that succeeds goes on with what it found. -/
theorem bind_ok {a : α} (h : step.run.run w = (.ok a, w')) (next : α → ExceptT ε (StateM World) β) :
    (step >>= next).run.run w = (next a).run.run w' := by
  show (ExceptT.bindCont next (step.run.run w).1).run (step.run.run w).2 = _
  rw [h]
  rfl

/-- A step that fails ends what it is part of. -/
theorem bind_error {e : ε} (h : step.run.run w = (.error e, w'))
    (next : α → ExceptT ε (StateM World) β) : (step >>= next).run.run w = (.error e, w') := by
  show (ExceptT.bindCont next (step.run.run w).1).run (step.run.run w).2 = _
  rw [h]
  rfl

/-- What is made of what a step found leaves the world as it is. -/
theorem bind_pure_snd (step : ExceptT ε (StateM World) α) (g : α → β) (w : World) :
    ((step >>= fun a => pure (g a)).run.run w).2 = (step.run.run w).2 := by
  rcases hrun : step.run.run w with ⟨e | a, w'⟩
  · rw [bind_error hrun]
  · rw [bind_ok hrun]
    rfl

/-- A lookup as a step of a search fails with what is said about its error. -/
theorem liftM_eq (lookup : Lookup α) (w : World) :
    (liftM lookup : SearchStep α).run.run w
      = ((lookup.run.run w).1.mapError fun e => .backend (some e.message),
        (lookup.run.run w).2) := by
  rfl

end

/-! ## Requests -/

/-- The world once the page at a URL has been asked for. -/
def asked (w : World) (url : Text) : World := { w with requests := ⟨.get, url, true⟩ :: w.requests }

/-- The page at a URL, as `answer` has it. -/
def pageTold (answer : Http.Request → Option Http.Response) (url : Text) :
    Except LookupError Text :=
  match answer ⟨.get, url, true⟩ with
  | none => .error .unanswered
  | some response =>
    if Http.isFailure response.status then .error (.refused response.status url)
    else
      match response.body with
      | some body => .ok body
      | none => .error .unanswered

/-- The data in the document at a URL. -/
def told {α : Type} (answer : Http.Request → Option Http.Response) (d : Json.Decoder α)
    (url : Text) : Except LookupError α := do
  match Json.decode? d (← pageTold answer url) with
  | some a => return a
  | none => throw .malformed

/-- What is told depends on one answer. -/
theorem told_congr {α : Type} {answer answer' : Http.Request → Option Http.Response} {url : Text}
    (h : answer ⟨.get, url, true⟩ = answer' ⟨.get, url, true⟩) (d : Json.Decoder α) :
    told answer d url = told answer' d url := by
  unfold told pageTold
  rw [h]

/-- A page with data in it. -/
theorem told_of_body {α : Type} {answer : Http.Request → Option Http.Response} {url body : Text}
    (h : answer ⟨.get, url, true⟩ = some { body := some body }) {d : Json.Decoder α} {a : α}
    (ha : Json.decode? d body = some a) : told answer d url = .ok a := by
  have hpage : pageTold answer url = .ok body := by
    unfold pageTold
    rw [h]
    rfl
  unfold told
  rw [hpage]
  show (match Json.decode? d body with
    | some a => pure a
    | none => throw LookupError.malformed : Except LookupError α) = _
  rw [ha]
  rfl

/-- A file is read as it stands. -/
theorem read_eq (place : Path) (w : World) :
    (read place).run.run w
      = ((w.files.readAt place).mapError fun _ => LookupError.unreadable, w) := by
  have hget : (get : Lookup World).run.run w = (.ok w, w) := rfl
  unfold read
  rw [bind_ok hget]
  cases w.files.readAt place <;> rfl

theorem tryWrite_ok {w : World} {place : Path} {t : Text} {files : Files}
    (h : w.files.writeAt place t = .ok files) :
    ((tryWrite place t).run w).2 = { w with files } := by
  unfold tryWrite
  rw [StateT.run_modify, h]
  rfl

/-- A write that is not possible changes nothing. -/
theorem tryWrite_error {w : World} {place : Path} {t : Text} {e : FileError}
    (h : w.files.writeAt place t = .error e) : ((tryWrite place t).run w).2 = w := by
  unfold tryWrite
  rw [StateT.run_modify, h]
  rfl

/-- The place that a URL redirects to is asked for, whatever the answer is. -/
theorem requests_redirect (url : Text) (w : World) :
    ((redirect url).run.run w).2.requests = ⟨.get, url, false⟩ :: w.requests := by
  have hsend : (liftM (send ⟨.get, url, false⟩) : Lookup _).run.run w
      = (.ok (w.network w.requests.length ⟨.get, url, false⟩),
        { w with requests := ⟨.get, url, false⟩ :: w.requests }) := rfl
  unfold redirect ask
  rw [bind_pure_snd, bind_ok hsend]
  cases w.network w.requests.length ⟨.get, url, false⟩ <;> rfl

theorem ask_eq (url : Text) (w : World) :
    (ask ⟨.get, url, true⟩).run.run w
      = (match w.network w.requests.length ⟨.get, url, true⟩ with
        | some response => .ok response
        | none => .error LookupError.unanswered, w.asked url) := by
  have hask : (ask ⟨.get, url, true⟩).run.run w
      = (match w.network w.requests.length ⟨.get, url, true⟩ with
        | some response => (pure response : Lookup Http.Response)
        | none => throw LookupError.unanswered).run.run (w.asked url) := rfl
  rw [hask]
  split <;> rfl

theorem page_eq (url : Text) (w : World) :
    (page url).run.run w = (pageTold (w.network w.requests.length) url, w.asked url) := by
  have hask := ask_eq url w
  unfold page pageTold
  cases hresponse : w.network w.requests.length ⟨.get, url, true⟩ with
  | none =>
    rw [hresponse] at hask
    exact bind_error hask _
  | some response =>
    rw [hresponse] at hask
    rw [bind_ok hask]
    dsimp only
    cases Http.isFailure response.status with
    | true => rfl
    | false => cases response.body <;> rfl

/-- A document is asked for once, and the next answer of the network counts. -/
theorem data_eq {α : Type} (d : Json.Decoder α) (url : Text) (w : World) :
    (data d url).run.run w = (told (w.network w.requests.length) d url, w.asked url) := by
  have hpage := page_eq url w
  unfold data told
  cases htold : pageTold (w.network w.requests.length) url with
  | error e =>
    rw [htold] at hpage
    exact bind_error hpage _
  | ok body =>
    rw [htold] at hpage
    rw [bind_ok hpage]
    show _ = ((match Json.decode? d body with
      | some a => pure a
      | none => throw LookupError.malformed : Except LookupError α), _)
    cases Json.decode? d body <;> rfl

end World

end InlineSearch
