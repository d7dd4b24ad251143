import AnovaOven.Laws.Normalize
import AnovaOven.Processors.LocalStore.RecipeFiles

/-!
# Updates and deletes of one recipe at once

An update is a read, a change and a write, with other calls' system calls in between. Where each
rename still finds the file as the patch was made for and the temporary file as it was written
(`Current`), the calls act one after another on the recipe in its file (`step_serves`). Then what
an update sets stays, until a later one sets it or a delete takes the recipe away.

**No update lost, where renames are current** (`no_update_lost`). Two updates that both read before
either renames lose one (`update_lost`), and both are told they succeeded.
-/

namespace AnovaOven

variable {id path name : String} {files : RecipeDir} {request : RecipeRequest} {s : RecipeFiles}

/-! ## Names and files -/

/-- A temporary file is no recipe file. -/
theorem isRecipeName_tmpName (name : String) : isRecipeName (tmpName name) = false := by
  have backwards : (tmpName name).toList.reverse =
      ['p', 'm', 't', '.', 'n', 'o', 's', 'j', '.'] ++ (fileStem name).toList.reverse := by
    rw [tmpName, String.toList_append, List.reverse_append]
    rfl
  have long : ¬ (beforeExtension (tmpName name)).length ≤ 1 := by
    rw [beforeExtension, backwards]
    simp
  have ends : extension (tmpName name) = some "tmp" := by
    rw [extension, if_neg long, backwards]
    rfl
  rw [isRecipeName, ends]
  decide

theorem ne_tmpName (h : isRecipeName name = true) (other : String) : name ≠ tmpName other := by
  rintro rfl
  rw [isRecipeName_tmpName] at h
  cases h

/-- A recipe file keeps its recipe when another file is written or removed. -/
theorem recipeIn_insert_ne {other : String} (ne : name ≠ other) (file : RecipeFile) :
    recipeIn (files.insert other file) name = recipeIn files name := by
  rw [recipeIn, AList.lookup_insert_ne ne]
  rfl

theorem recipeIn_insert (recipe : Recipe) :
    recipeIn (files.insert name (.recipe recipe)) name = some recipe := by
  rw [recipeIn, AList.lookup_insert]
  rfl

theorem recipeIn_erase_ne {other : String} (ne : name ≠ other) :
    recipeIn (files.erase other) name = recipeIn files name := by
  rw [recipeIn, AList.lookup_erase_ne ne]
  rfl

theorem recipeIn_erase : recipeIn (files.erase name) name = none := by
  rw [recipeIn, AList.lookup_erase]
  rfl

/-! ## The invariant -/

/-- No recipe file but one holds the recipe. -/
def OnlyAt (id path : String) (files : RecipeDir) : Prop :=
  ∀ name recipe, isRecipeName name = true → recipeIn files name = some recipe → recipe.id = id →
    name = path

/-- A call on a recipe acts on its file alone. -/
def CallOn (id path : String) (request : RecipeRequest) : RecipeCall → Prop
  | .readDir | .done => True
  | .readFile left read => (∀ name ∈ left, isRecipeName name = true) ∧
      ∀ entry ∈ read, entry.2.id = id → entry.1 = path ∧ isRecipeName path = true
  | .writeTmp name recipe | .rename name recipe => name = path ∧ isRecipeName path = true ∧
      recipe.id = id ∧ ∃ patch fresh, request = .update id patch fresh
  | .remove name => name = path ∧ isRecipeName path = true ∧ request = .delete id

/-- The calls are all on one recipe, which no other file holds. -/
structure CallsOn (id path : String) (s : RecipeFiles) : Prop where
  only : OnlyAt id path s.files
  calls : ∀ call ∈ s.calls, call.1.id = id ∧ CallOn id path call.1 call.2

/-- A turn of calls on one recipe. -/
def RecipeTurn.isOn (id : String) : RecipeTurn → Prop
  | .call request => request.id = id
  | .step _ _ => True

/-- A turn that renames finds the file as the patch was made for, up to what the patch sets anyway,
and the temporary file as the call wrote it. -/
def Current (s : RecipeFiles) : RecipeTurn → Prop
  | .call _ => True
  | .step k _ => ∀ id patch fresh name recipe,
      s.calls[k]? = some (.update id patch fresh, .rename name recipe) →
      (s.files.lookup (tmpName name)).isSome = true →
        s.files.lookup (tmpName name) = some (.recipe recipe) ∧
          ∃ current, recipeIn s.files name = some current ∧
            normalize fresh (patch.apply current) = .ok recipe

/-- A reply that is an error. -/
def Failed (reply : RecipeReply) : Prop := ∀ answer, reply ≠ .ok answer

/-- After its last file is read, a call is on the recipe's file, or it is done and has failed. -/
theorem afterFind_on {read : List (String × Recipe)} (on : request.id = id)
    (found : ∀ entry ∈ read, entry.2.id = id → entry.1 = path ∧ isRecipeName path = true) :
    CallOn id path request (afterFind request read).1 ∧
      ∀ reply, (afterFind request read).2 = some reply → Failed reply := by
  unfold afterFind
  cases first : findRecipe request.id read with
  | none => exact ⟨trivial, by rintro reply ⟨⟩ answer ⟨⟩⟩
  | some entry =>
    obtain ⟨name, recipe⟩ := entry
    have holds : recipe.id = id := by
      have := List.find?_some first
      rw [on] at this
      exact of_decide_eq_true this
    obtain ⟨at', isRecipe⟩ := found _ (List.mem_of_find?_eq_some first) holds
    cases request with
    | delete own =>
      obtain rfl : own = id := on
      exact ⟨⟨at', isRecipe, rfl⟩, by rintro reply ⟨⟩⟩
    | update own patch fresh =>
      obtain rfl : own = id := on
      dsimp only
      cases accepted : normalize fresh (patch.apply recipe) with
      | error e => exact ⟨trivial, by rintro reply ⟨⟩ answer ⟨⟩⟩
      | ok out =>
        exact ⟨⟨at', isRecipe, (normalize_id accepted).trans holds, patch, fresh, rfl⟩,
          by rintro reply ⟨⟩⟩

theorem readOn_on {left : List String} {read : List (String × Recipe)} (on : request.id = id)
    (names : ∀ name ∈ left, isRecipeName name = true)
    (found : ∀ entry ∈ read, entry.2.id = id → entry.1 = path ∧ isRecipeName path = true) :
    CallOn id path request (readOn request left read).1 ∧
      ∀ reply, (readOn request left read).2 = some reply → Failed reply := by
  unfold readOn
  split
  · exact afterFind_on on found
  · exact ⟨⟨names, found⟩, by rintro reply ⟨⟩⟩

/-! ## One turn -/

/-- What a system call does to the recipe in its file: nothing, or it replaces the recipe by what a
patch makes of it and answers so, or takes it away and answers so. -/
inductive Served (id path : String) (request : RecipeRequest) (before after : Option Recipe) :
    Option RecipeReply → Prop where
  | quiet {reply : Option RecipeReply} (same : after = before)
      (failed : ∀ r, reply = some r → Failed r) : Served id path request before after reply
  | updated (patch : RecipePatch) (fresh : Nat → String) (current recipe : Recipe)
      (asked : request = .update id patch fresh) (was : before = some current)
      (patched : normalize fresh (patch.apply current) = .ok recipe) (now : after = some recipe)
      (own : recipe.id = id) (isRecipe : isRecipeName path = true) :
      Served id path request before after (some (.ok (some recipe)))
  | deleted (asked : request = .delete id) (now : after = none) :
      Served id path request before after (some (.ok none))

/-- A rename that a call on the recipe makes, if it makes it, is current. -/
def RenamesCurrent (files : RecipeDir) (request : RecipeRequest) (call : RecipeCall) : Prop :=
  ∀ id patch fresh name recipe, request = .update id patch fresh → call = .rename name recipe →
    (files.lookup (tmpName name)).isSome = true →
      files.lookup (tmpName name) = some (.recipe recipe) ∧
        ∃ current, recipeIn files name = some current ∧
          normalize fresh (patch.apply current) = .ok recipe

/-- What a system call leaves: files of which one may hold the recipe, a call on it, and the recipe
served. -/
structure CallStep (id path : String) (request : RecipeRequest) (files : RecipeDir)
    (result : RecipeDir × RecipeCall × Option RecipeReply) : Prop where
  only : OnlyAt id path result.1
  on : CallOn id path request result.2.1
  served : Served id path request (recipeIn files path) (recipeIn result.1 path) result.2.2

/-- A call that changes no file, and succeeds with nothing, serves nothing. -/
theorem CallStep.of_quiet {call : RecipeCall} {reply : Option RecipeReply}
    (only : OnlyAt id path files)
    (on : CallOn id path request call ∧ ∀ r, reply = some r → Failed r) :
    CallStep id path request files (files, call, reply) :=
  ⟨only, on.1, .quiet rfl on.2⟩

theorem missing_failed (dir name : String) : Failed (missing dir name) := by
  rintro answer ⟨⟩

theorem call_step {call : RecipeCall} (dir : String) (listed : List String)
    (only : OnlyAt id path files) (asked : request.id = id) (on : CallOn id path request call)
    (current : RenamesCurrent files request call) :
    CallStep id path request files (call.step dir request listed files) := by
  cases call with
  | readDir =>
    simp only [RecipeCall.step]
    split_ifs
    · refine .of_quiet only (readOn_on asked ?_ ?_)
      · exact fun name mem => (List.mem_filter.mp mem).2
      · exact fun entry mem => absurd mem List.not_mem_nil
    · exact .of_quiet only ⟨trivial, by rintro reply ⟨⟩⟩
  | readFile left read =>
    cases left with
    | nil => exact .of_quiet only (afterFind_on asked on.2)
    | cons name left =>
      refine .of_quiet only (readOn_on asked (fun n mem => on.1 n (List.mem_cons_of_mem _ mem)) ?_)
      intro entry mem holds
      rcases List.mem_append.mp mem with mem | mem
      · exact on.2 entry mem holds
      · obtain ⟨recipe, held, rfl⟩ := Option.map_eq_some_iff.mp (Option.mem_toList.mp mem)
        have isRecipe := on.1 name List.mem_cons_self
        obtain rfl := only name recipe isRecipe held holds
        exact ⟨rfl, isRecipe⟩
  | writeTmp name recipe =>
    refine ⟨?_, on, .quiet ?_ (by rintro reply ⟨⟩)⟩
    · intro other held isRecipe at' holds
      exact only other held isRecipe (recipeIn_insert_ne (ne_tmpName isRecipe name) _ ▸ at') holds
    · obtain ⟨rfl, isRecipe, _⟩ := on
      exact recipeIn_insert_ne (ne_tmpName isRecipe name) _
  | rename name recipe =>
    obtain ⟨rfl, isRecipe, own, patch, fresh, rfl⟩ := on
    cases tmp : files.lookup (tmpName name) with
    | none =>
      simp only [RecipeCall.step, tmp]
      exact .of_quiet only ⟨trivial, by rintro reply ⟨⟩; exact missing_failed dir name⟩
    | some file =>
      simp only [RecipeCall.step, tmp]
      obtain ⟨written, was, held, patched⟩ :=
        current id patch fresh name recipe rfl rfl (by rw [tmp]; rfl)
      obtain rfl : file = .recipe recipe := Option.some.inj (tmp.symm.trans written)
      refine ⟨?_, trivial, .updated patch fresh was recipe rfl held patched (recipeIn_insert _) own isRecipe⟩
      intro other found isRecipe' at' holds
      by_contra ne
      rw [recipeIn_insert_ne ne, recipeIn_erase_ne (ne_tmpName isRecipe' name)] at at'
      exact ne (only other found isRecipe' at' holds)
  | remove name =>
    obtain ⟨rfl, isRecipe, rfl⟩ := on
    simp only [RecipeCall.step]
    split_ifs
    · exact .of_quiet only ⟨trivial, by rintro reply ⟨⟩; exact missing_failed dir name⟩
    · refine ⟨?_, trivial, .deleted rfl recipeIn_erase⟩
      intro other found isRecipe' at' holds
      by_contra ne
      rw [recipeIn_erase_ne ne] at at'
      exact ne (only other found isRecipe' at' holds)
  | done => exact .of_quiet only ⟨trivial, by rintro reply ⟨⟩⟩

variable {t : RecipeTurn}

/-- **One turn serves one call.** The calls stay on the recipe, and the recipe in its file is served as
the turn's answer says. -/
theorem step_served (inv : CallsOn id path s) (on : t.isOn id) (current : Current s t) :
    CallsOn id path (recipeFiles.next s t) ∧ ∃ k request reply,
      recipeFiles.effects s t = reply.toList.map (fun reply => ⟨k, request, reply⟩) ∧
        Served id path request (recipeIn s.files path)
          (recipeIn (recipeFiles.next s t).files path) reply := by
  cases t with
  | call request =>
    refine ⟨⟨inv.only, ?_⟩, 0, request, none, rfl, .quiet rfl (by rintro reply ⟨⟩)⟩
    intro call mem
    rcases List.mem_append.mp mem with mem | mem
    · exact inv.calls call mem
    · obtain rfl := List.mem_singleton.mp mem
      exact ⟨on, trivial⟩
  | step k listed =>
    show CallsOn id path (s.step (.step k listed)).1 ∧ ∃ k' request reply,
      (s.step (.step k listed)).2 = reply.toList.map (fun reply => ⟨k', request, reply⟩) ∧
        Served id path request (recipeIn s.files path)
          (recipeIn (s.step (.step k listed)).1.files path) reply
    cases asked : s.calls[k]? with
    | none =>
      simp only [RecipeFiles.step, asked]
      exact ⟨inv, 0, .delete id, none, rfl, .quiet rfl (by rintro reply ⟨⟩)⟩
    | some entry =>
      obtain ⟨request, call⟩ := entry
      obtain ⟨own, callOn⟩ := inv.calls _ (List.mem_of_getElem? asked)
      have renames : RenamesCurrent s.files request call := by
        rintro id' patch fresh name recipe rfl rfl
        exact current id' patch fresh name recipe asked
      have step := call_step s.dir listed inv.only own callOn renames
      simp only [RecipeFiles.step, asked]
      refine ⟨⟨step.only, ?_⟩, k, request, _, rfl, step.served⟩
      intro other mem
      rcases List.mem_or_eq_of_mem_set mem with mem | rfl
      · exact inv.calls other mem
      · exact ⟨own, step.on⟩

/-! ## A call answers once -/

theorem afterFind_done {read : List (String × Recipe)} {reply : RecipeReply}
    (h : (afterFind request read).2 = some reply) : (afterFind request read).1 = .done := by
  unfold afterFind at h ⊢
  cases found : findRecipe request.id read with
  | none => rfl
  | some entry =>
    rw [found] at h
    cases request with
    | delete own => cases h
    | update own patch fresh =>
      dsimp only at h ⊢
      cases accepted : normalize fresh (patch.apply entry.2) with
      | error e => rfl
      | ok out =>
        rw [accepted] at h
        cases h

theorem readOn_done {left : List String} {read : List (String × Recipe)} {reply : RecipeReply}
    (h : (readOn request left read).2 = some reply) : (readOn request left read).1 = .done := by
  unfold readOn at h ⊢
  split at h
  · rw [if_pos ‹_›]
    exact afterFind_done h
  · cases h

/-- A call that answers is done. -/
theorem call_done {call : RecipeCall} {dir : String} {listed : List String} {reply : RecipeReply}
    (h : (call.step dir request listed files).2.2 = some reply) :
    (call.step dir request listed files).2.1 = .done := by
  cases call with
  | readDir =>
    simp only [RecipeCall.step] at h ⊢
    split_ifs at h ⊢
    exact readOn_done h
  | readFile left read =>
    cases left with
    | nil => exact afterFind_done h
    | cons name left => exact readOn_done h
  | writeTmp name recipe => cases h
  | rename name recipe =>
    cases tmp : files.lookup (tmpName name) with
    | none => simp only [RecipeCall.step, tmp]
    | some file => simp only [RecipeCall.step, tmp]
  | remove name =>
    simp only [RecipeCall.step]
    split_ifs <;> rfl
  | done => rfl

/-- A call's number is done. -/
def Done (k : Nat) (s : RecipeFiles) : Prop := ∃ request, s.calls[k]? = some (request, .done)

/-- A call that is done stays so, and answers no more. -/
theorem step_done {k : Nat} (done : Done k s) :
    Done k (recipeFiles.next s t) ∧ ∀ a ∈ recipeFiles.effects s t, a.call ≠ k := by
  obtain ⟨request, done⟩ := done
  cases t with
  | call request' =>
    have inside : k < s.calls.length := (List.getElem?_eq_some_iff.mp done).1
    exact ⟨⟨request, (List.getElem?_append_left inside).trans done⟩,
      fun a mem => absurd mem List.not_mem_nil⟩
  | step j listed =>
    show Done k (s.step (.step j listed)).1 ∧ ∀ a ∈ (s.step (.step j listed)).2, a.call ≠ k
    cases asked : s.calls[j]? with
    | none =>
      simp only [RecipeFiles.step, asked]
      exact ⟨⟨request, done⟩, fun a mem => absurd mem List.not_mem_nil⟩
    | some entry =>
      obtain ⟨request', call⟩ := entry
      simp only [RecipeFiles.step, asked]
      by_cases same : j = k
      · subst same
        obtain ⟨rfl, rfl⟩ : request = request' ∧ .done = call := by
          simpa using done.symm.trans asked
        have inside : j < s.calls.length := (List.getElem?_eq_some_iff.mp done).1
        exact ⟨⟨request, List.getElem?_set_self inside⟩, fun a mem => absurd mem List.not_mem_nil⟩
      · refine ⟨⟨request, (List.getElem?_set_ne same).trans done⟩, fun a mem => ?_⟩
        obtain ⟨reply, _, rfl⟩ := List.mem_map.mp mem
        exact same

/-- The call that answers at a turn is done after it. -/
theorem answered_done {a : RecipeAnswer} (h : a ∈ recipeFiles.effects s t) :
    Done a.call (recipeFiles.next s t) := by
  cases t with
  | call request => exact absurd h List.not_mem_nil
  | step k listed =>
    replace h : a ∈ (s.step (.step k listed)).2 := h
    show Done a.call (s.step (.step k listed)).1
    cases asked : s.calls[k]? with
    | none =>
      simp only [RecipeFiles.step, asked] at h
      exact absurd h List.not_mem_nil
    | some entry =>
      obtain ⟨request, call⟩ := entry
      simp only [RecipeFiles.step, asked] at h ⊢
      obtain ⟨reply, answered, rfl⟩ := List.mem_map.mp h
      have inside : k < s.calls.length := (List.getElem?_eq_some_iff.mp asked).1
      refine ⟨request, ?_⟩
      show (s.calls.set k _)[k]? = _
      rw [List.getElem?_set_self inside, call_done (Option.mem_toList.mp answered)]

/-! ## What stays -/

/-- Whether a call that succeeds sets the title, or takes it away. -/
def RecipeRequest.setsTitle : RecipeRequest → Bool
  | update _ patch _ => patch.title.isSome
  | delete _ => true

/-- Whether a call that succeeds sets the stages, or takes them away. -/
def RecipeRequest.setsStages : RecipeRequest → Bool
  | update _ patch _ => patch.stages.isSome
  | delete _ => true

/-- Whether an answer is a success. -/
def RecipeAnswer.ok (a : RecipeAnswer) : Bool := a.reply.toBool

/-- Stages as an update with fresh ids keeps them, in whatever recipe it finds. -/
def KeptStages (fresh : Nat → String) (stages kept : List Stage) : Prop :=
  ∃ base out : Recipe,
    normalize fresh { base with stages := stages } = .ok out ∧ out.stages = kept

/-- The recipe is in its file, with a title as titles are kept. -/
def TitleShown (id path title : String) (view : Option Recipe) : Prop :=
  isRecipeName path = true ∧
    ∃ recipe, view = some recipe ∧ recipe.id = id ∧ recipe.title = trim title

/-- The recipe is in its file, with stages as an update keeps them. -/
def StagesShown (fresh : Nat → String) (stages : List Stage) (view : Option Recipe) : Prop :=
  ∃ recipe, view = some recipe ∧ KeptStages fresh stages recipe.stages

theorem title_stays {title : String} {before after : Option Recipe} {reply : Option RecipeReply}
    (served : Served id path request before after reply) (shown : TitleShown id path title before)
    (other : ∀ answer, reply = some (.ok answer) → request.setsTitle = false) :
    TitleShown id path title after := by
  obtain ⟨isRecipe, recipe, was, ownBefore, isTitle⟩ := shown
  cases served with
  | quiet same failed => exact ⟨isRecipe, recipe, same.trans was, ownBefore, isTitle⟩
  | updated patch fresh current out asked held patched now own _ =>
    obtain rfl : current = recipe := Option.some.inj (held.symm.trans was)
    have kept : patch.title = none := by
      have := other _ rfl
      rw [asked] at this
      exact Option.isSome_eq_false_iff.mp this |> Option.isNone_iff_eq_none.mp
    refine ⟨isRecipe, out, now, own, (normalize_title patched).trans ?_⟩
    rw [RecipePatch.apply, kept, Option.getD_none, isTitle, trim_trim]
  | deleted asked now =>
    have := other _ rfl
    rw [asked] at this
    cases this

theorem stages_stay {ids : Nat → String} {stages : List Stage} {before after : Option Recipe}
    {reply : Option RecipeReply} (served : Served id path request before after reply)
    (shown : StagesShown ids stages before)
    (other : ∀ answer, reply = some (.ok answer) → request.setsStages = false) :
    StagesShown ids stages after := by
  obtain ⟨recipe, was, base, kept, normalized, same⟩ := shown
  cases served with
  | quiet unchanged failed => exact ⟨recipe, unchanged.trans was, base, kept, normalized, same⟩
  | updated patch fresh current out asked held patched now =>
    obtain rfl : current = recipe := Option.some.inj (held.symm.trans was)
    have left : patch.stages = none := by
      have := other _ rfl
      rw [asked] at this
      exact Option.isSome_eq_false_iff.mp this |> Option.isNone_iff_eq_none.mp
    have applied : (patch.apply current).stages = kept.stages := by
      rw [RecipePatch.apply, left, Option.getD_none, same]
    exact ⟨out, now, base, kept, normalized, (normalize_stages_again normalized applied patched).symm⟩
  | deleted asked now =>
    have := other _ rfl
    rw [asked] at this
    cases this

theorem deleted_stays {after : Option Recipe} {reply : Option RecipeReply}
    (served : Served id path request none after reply) : after = none := by
  cases served with
  | quiet same failed => exact same
  | updated patch fresh current out asked held patched now => cases held
  | deleted asked now => exact now

/-! ## Whole runs -/

/-- A turn the laws are about: calls are on the recipe, and renames are current. -/
def Admitted (id : String) (s : RecipeFiles) (t : RecipeTurn) : Prop := t.isOn id ∧ Current s t

/-- A turn's answer is of the call the turn serves. -/
theorem answer_served (inv : CallsOn id path s) (admitted : Admitted id s t) {a : RecipeAnswer}
    (h : a ∈ recipeFiles.effects s t) :
    Served id path a.request (recipeIn s.files path)
      (recipeIn (recipeFiles.next s t).files path) (some a.reply) := by
  obtain ⟨_, k, request, reply, effects, served⟩ := step_served inv admitted.1 admitted.2
  rw [effects] at h
  obtain ⟨answered, mem, rfl⟩ := List.mem_map.mp h
  rw [Option.mem_toList.mp mem] at served
  exact served

/-- What other calls leave alone stays over a run, once its own call is done. -/
theorem stays_over_run {K : Option Recipe → Prop} {touches : RecipeRequest → Bool} {k : Nat}
    (stays : ∀ {request before after reply}, Served id path request before after reply → K before →
      (∀ answer, reply = some (.ok answer) → touches request = false) → K after)
    {turns : List RecipeTurn} (inv : CallsOn id path s) (done : Done k s)
    (admitted : recipeFiles.Each (Admitted id) s turns)
    (others : ∀ c ∈ recipeFiles.trace s turns, c.ok = true → c.call ≠ k →
      touches c.request = false)
    (holds : K (recipeIn s.files path)) :
    K (recipeIn (recipeFiles.run s turns).files path) := by
  induction turns generalizing s with
  | nil => exact holds
  | cons t turns ih =>
    obtain ⟨next, j, request, reply, effects, served⟩ := step_served inv admitted.1.1 admitted.1.2
    obtain ⟨stillDone, notAgain⟩ := step_done (t := t) done
    refine ih next stillDone admitted.2 ?_ ?_
    · exact fun c mem => others c (List.mem_append_right _ mem)
    · apply stays served holds
      intro answer success
      have answered : (⟨j, request, .ok answer⟩ : RecipeAnswer) ∈ recipeFiles.effects s t := by
        rw [effects, success]
        exact List.mem_singleton_self _
      exact others _ (List.mem_append_left _ answered) rfl (notAgain _ answered)

/-- Two updates of disjoint fields that succeed both show, where no other call that succeeds sets the
same fields or deletes; and a recipe whose delete succeeded is gone. -/
structure NoUpdateLost (id : String) (start : RecipeFiles) (turns : List RecipeTurn) : Prop where
  updates : (recipeFiles.run start turns).finished = true →
    ∀ a ∈ recipeFiles.trace start turns, ∀ b ∈ recipeFiles.trace start turns,
      ∀ title titleIds stages stageIds, a.ok = true → b.ok = true →
      a.request = .update id ⟨some title, none⟩ titleIds →
      b.request = .update id ⟨none, some stages⟩ stageIds →
      (∀ c ∈ recipeFiles.trace start turns, c.ok = true → c.call ≠ a.call →
        c.request.setsTitle = false) →
      (∀ c ∈ recipeFiles.trace start turns, c.ok = true → c.call ≠ b.call →
        c.request.setsStages = false) →
      ∃ name recipe, isRecipeName name = true ∧
        recipeIn (recipeFiles.run start turns).files name = some recipe ∧ recipe.id = id ∧
        recipe.title = trim title ∧ KeptStages stageIds stages recipe.stages
  deletes : (recipeFiles.run start turns).finished = true →
    ∀ a ∈ recipeFiles.trace start turns, a.ok = true → a.request = .delete id →
      ∀ name recipe, isRecipeName name = true →
        recipeIn (recipeFiles.run start turns).files name = some recipe → recipe.id ≠ id

/-- An update that succeeds leaves its title, where it sets one. -/
theorem title_set {title : String} {stages : Option (List Stage)} {ids : Nat → String}
    {before after : Option Recipe} {reply : RecipeReply}
    (served : Served id path request before after (some reply)) (ok : reply.toBool = true)
    (asked : request = .update id ⟨some title, stages⟩ ids) : TitleShown id path title after := by
  cases served with
  | quiet same failed =>
    cases reply with
    | error e => cases ok
    | ok answer => exact (failed _ rfl answer rfl).elim
  | updated patch fresh current out isUpdate held patched now own isRecipe =>
    rw [asked] at isUpdate
    cases isUpdate
    have sets : (RecipePatch.apply ⟨some title, stages⟩ current).title = title := rfl
    exact ⟨isRecipe, out, now, own, (normalize_title patched).trans (congrArg trim sets)⟩
  | deleted isDelete now =>
    rw [asked] at isDelete
    cases isDelete

theorem stages_set {title : Option String} {stages : List Stage} {ids : Nat → String}
    {before after : Option Recipe} {reply : RecipeReply}
    (served : Served id path request before after (some reply)) (ok : reply.toBool = true)
    (asked : request = .update id ⟨title, some stages⟩ ids) : StagesShown ids stages after := by
  cases served with
  | quiet same failed =>
    cases reply with
    | error e => cases ok
    | ok answer => exact (failed _ rfl answer rfl).elim
  | updated patch fresh current out isUpdate held patched now own isRecipe =>
    rw [asked] at isUpdate
    cases isUpdate
    have sets : { RecipePatch.apply ⟨title, some stages⟩ current with stages := stages } =
        RecipePatch.apply ⟨title, some stages⟩ current := rfl
    exact ⟨out, now, RecipePatch.apply ⟨title, some stages⟩ current, out, sets ▸ patched, rfl⟩
  | deleted isDelete now =>
    rw [asked] at isDelete
    cases isDelete

theorem recipe_removed {before after : Option Recipe} {reply : RecipeReply}
    (served : Served id path request before after (some reply)) (ok : reply.toBool = true)
    (asked : request = .delete id) : after = none := by
  cases served with
  | quiet same failed =>
    cases reply with
    | error e => cases ok
    | ok answer => exact (failed _ rfl answer rfl).elim
  | updated patch fresh current out isUpdate held patched now own isRecipe =>
    rw [asked] at isUpdate
    cases isUpdate
  | deleted isDelete now => exact now

theorem run_on {turns : List RecipeTurn} (inv : CallsOn id path s)
    (admitted : recipeFiles.Each (Admitted id) s turns) :
    CallsOn id path (recipeFiles.run s turns) :=
  Machine.Each.invariant (I := CallsOn id path)
    (fun _ _ inv admitted => (step_served inv admitted.1 admitted.2).1) inv admitted

/-- **What a call that succeeds leaves, stays,** where no other call that succeeds touches it. -/
theorem left_stays (K : Option Recipe → Prop) (touches : RecipeRequest → Bool)
    {turns : List RecipeTurn} {a : RecipeAnswer}
    (stays : ∀ {request before after reply}, Served id path request before after reply → K before →
      (∀ answer, reply = some (.ok answer) → touches request = false) → K after)
    (leaves : ∀ {before after}, Served id path a.request before after (some a.reply) → K after)
    (inv : CallsOn id path s) (admitted : recipeFiles.Each (Admitted id) s turns)
    (mem : a ∈ recipeFiles.trace s turns)
    (others : ∀ c ∈ recipeFiles.trace s turns, c.ok = true → c.call ≠ a.call →
      touches c.request = false) :
    K (recipeIn (recipeFiles.run s turns).files path) := by
  obtain ⟨past, t, rest, rfl, answered⟩ := Machine.mem_trace mem
  obtain ⟨before, now, later⟩ := Machine.each_append.mp admitted
  have invNow := run_on inv before
  have left := leaves (answer_served invNow now answered)
  have invNext := (step_served invNow now.1 now.2).1
  rw [Machine.run_append, Machine.run_cons]
  refine stays_over_run stays invNext (answered_done answered) later (fun c item => others c ?_) left
  rw [Machine.trace_append, Machine.trace_cons]
  exact List.mem_append_right _ (List.mem_append_right _ item)

/-- **No update lost, where renames are current.** In a directory where one file holds the recipe, a
run of updates and deletes of it, each of whose renames is current, loses no update and keeps no
deleted recipe. -/
theorem no_update_lost (dir id path : String) (files : RecipeDir) (only : OnlyAt id path files)
    (turns : List RecipeTurn) (admitted : recipeFiles.Each (Admitted id) ⟨dir, files, []⟩ turns) :
    NoUpdateLost id ⟨dir, files, []⟩ turns := by
  have inv : CallsOn id path ⟨dir, files, []⟩ :=
    ⟨only, fun call mem => absurd mem List.not_mem_nil⟩
  have final := run_on inv admitted
  constructor
  · intro _ a memA b memB title titleIds stages stageIds okA okB isTitle isStages otherA otherB
    obtain ⟨isRecipe, recipe, held, own, titled⟩ :=
      left_stays (TitleShown id path title) RecipeRequest.setsTitle title_stays
        (fun served => title_set served okA isTitle) inv admitted memA otherA
    obtain ⟨same, held', kept⟩ :=
      left_stays (StagesShown stageIds stages) RecipeRequest.setsStages stages_stay
        (fun served => stages_set served okB isStages) inv admitted memB otherB
    obtain rfl : recipe = same := Option.some.inj (held.symm.trans held')
    exact ⟨path, recipe, isRecipe, held, own, titled, kept⟩
  · intro _ a mem ok isDelete name recipe isRecipe held holds
    have gone := left_stays (fun view => view = none) (fun _ => false)
      (fun served was _ => deleted_stays (was ▸ served))
      (fun served => recipe_removed served ok isDelete) inv admitted mem (fun _ _ _ _ => rfl)
    obtain rfl := final.only name recipe isRecipe held holds
    rw [gone] at held
    cases held

/-- A turn that renames nothing is current. -/
theorem current_of_no_rename {k : Nat} {listed : List String}
    (h : ∀ entry, s.calls[k]? = some entry → ∀ name recipe, entry.2 ≠ .rename name recipe) :
    Current s (.step k listed) :=
  fun _ _ _ name recipe asked => absurd rfl (h _ asked name recipe)

namespace Kitchen

/-- The roast's file, alone in its directory. -/
def shelf : RecipeDir := (∅ : RecipeDir).insert "roast.json" (.recipe (recipeOf roast))

def pantry : RecipeFiles := ⟨"recipes", shelf, []⟩

def retitle : RecipeRequest := .update "roast" ⟨some "Sunday roast", none⟩ toString

def restage : RecipeRequest := .update "roast" ⟨none, some [roast, roast]⟩ toString

/-- Two updates at once. The second lists the directory before the first renames, and reads the file
after. -/
def inTurn : List RecipeTurn :=
  [.call retitle, .call restage, .step 0 ["roast.json"], .step 1 ["roast.json"], .step 0 [],
    .step 0 [], .step 0 [], .step 1 [], .step 1 [], .step 1 []]

/-- An update and a delete at once. Both have read the file when the update renames, and the delete
removes it then. -/
def binned : List RecipeTurn :=
  [.call retitle, .call (.delete "roast"), .step 0 ["roast.json"], .step 1 ["roast.json"],
    .step 0 [], .step 1 [], .step 0 [], .step 0 [], .step 1 []]

/-- Two updates that both read the file before either renames. -/
def crossed : List RecipeTurn :=
  [.call retitle, .call restage, .step 0 ["roast.json"], .step 1 ["roast.json"], .step 0 [],
    .step 1 [], .step 0 [], .step 0 [], .step 1 [], .step 1 []]

theorem shelf_only : OnlyAt "roast" "roast.json" shelf := by
  intro name recipe _ held _
  have listed : name ∈ shelf := by
    rw [← AList.lookup_isSome]
    cases found : shelf.lookup name with
    | none => simp [recipeIn, found] at held
    | some file => rfl
  exact List.mem_singleton.mp (AList.mem_keys.mp listed)

/-- What a run answers: each call, and whether it succeeded. -/
def answers (turns : List RecipeTurn) : List (Nat × RecipeRequest × Bool) :=
  (recipeFiles.trace pantry turns).map fun a => (a.call, a.request, a.ok)

/-- The roast under its new title. -/
def retitled : Recipe := { recipeOf roast with title := "Sunday roast" }

theorem inTurn_admitted : recipeFiles.Each (Admitted "roast") pantry inTurn := by
  refine ⟨⟨rfl, trivial⟩, ⟨rfl, trivial⟩, ⟨trivial, ?_⟩, ⟨trivial, ?_⟩, ⟨trivial, ?_⟩, ⟨trivial, ?_⟩,
    ⟨trivial, ?_⟩, ⟨trivial, ?_⟩, ⟨trivial, ?_⟩, ⟨trivial, ?_⟩, trivial⟩
  · exact current_of_no_rename (by rintro _ ⟨⟩ name recipe ⟨⟩)
  · exact current_of_no_rename (by rintro _ ⟨⟩ name recipe ⟨⟩)
  · exact current_of_no_rename (by rintro _ ⟨⟩ name recipe ⟨⟩)
  · exact current_of_no_rename (by rintro _ ⟨⟩ name recipe ⟨⟩)
  · rintro id patch fresh name recipe asked -
    cases asked
    exact ⟨rfl, recipeOf roast, rfl, by decide +kernel⟩
  · exact current_of_no_rename (by rintro _ ⟨⟩ name recipe ⟨⟩)
  · exact current_of_no_rename (by rintro _ ⟨⟩ name recipe ⟨⟩)
  · rintro id patch fresh name recipe asked -
    cases asked
    exact ⟨rfl, retitled, rfl, by decide +kernel⟩

theorem binned_admitted : recipeFiles.Each (Admitted "roast") pantry binned := by
  refine ⟨⟨rfl, trivial⟩, ⟨rfl, trivial⟩, ⟨trivial, ?_⟩, ⟨trivial, ?_⟩, ⟨trivial, ?_⟩, ⟨trivial, ?_⟩,
    ⟨trivial, ?_⟩, ⟨trivial, ?_⟩, ⟨trivial, ?_⟩, trivial⟩
  · exact current_of_no_rename (by rintro _ ⟨⟩ name recipe ⟨⟩)
  · exact current_of_no_rename (by rintro _ ⟨⟩ name recipe ⟨⟩)
  · exact current_of_no_rename (by rintro _ ⟨⟩ name recipe ⟨⟩)
  · exact current_of_no_rename (by rintro _ ⟨⟩ name recipe ⟨⟩)
  · exact current_of_no_rename (by rintro _ ⟨⟩ name recipe ⟨⟩)
  · rintro id patch fresh name recipe asked -
    cases asked
    exact ⟨rfl, recipeOf roast, rfl, by decide +kernel⟩
  · exact current_of_no_rename (by rintro _ ⟨⟩ name recipe ⟨⟩)

end Kitchen

open Kitchen in
/-- Two updates at once that both succeed, and an update and a delete that both do. -/
theorem no_update_lost_at_once :
    (NoUpdateLost "roast" pantry inTurn ∧ (recipeFiles.run pantry inTurn).finished = true ∧
      answers inTurn = [(0, retitle, true), (1, restage, true)]) ∧
    (NoUpdateLost "roast" pantry binned ∧ (recipeFiles.run pantry binned).finished = true ∧
      answers binned = [(0, retitle, true), (1, .delete "roast", true)]) :=
  ⟨⟨no_update_lost "recipes" "roast" "roast.json" shelf shelf_only inTurn inTurn_admitted,
      by decide +kernel, rfl⟩,
    no_update_lost "recipes" "roast" "roast.json" shelf shelf_only binned binned_admitted,
      by decide +kernel, rfl⟩

namespace Kitchen

/-- Both crossed updates succeed. -/
theorem crossed_answers : answers crossed = [(0, retitle, true), (1, restage, true)] := rfl

/-- The file after both: the stages of the one, the old title. -/
theorem crossed_files : (recipeFiles.run pantry crossed).files.entries =
    [⟨"roast.json", .recipe { recipeOf roast with stages := [roast, roast], stageCount := 2 }⟩] := by
  decide +kernel

/-- An answer of the crossed updates is of the one or the other. -/
theorem crossed_cases {c : RecipeAnswer} (mem : c ∈ recipeFiles.trace pantry crossed) :
    (c.call = 0 ∧ c.request = retitle) ∨ (c.call = 1 ∧ c.request = restage) := by
  have listed : (c.call, c.request, c.ok) ∈ [(0, retitle, true), (1, restage, true)] :=
    crossed_answers ▸ List.mem_map_of_mem mem
  rcases List.mem_pair.mp listed with same | same
  · exact .inl ⟨congrArg Prod.fst same, congrArg (·.2.1) same⟩
  · exact .inr ⟨congrArg Prod.fst same, congrArg (·.2.1) same⟩

/-- Both are answered with success. -/
theorem crossed_ok {k : Nat} {request : RecipeRequest}
    (h : (k, request, true) ∈ [(0, retitle, true), (1, restage, true)]) :
    ∃ a ∈ recipeFiles.trace pantry crossed, a.call = k ∧ a.request = request ∧ a.ok = true := by
  rw [← crossed_answers, answers] at h
  obtain ⟨a, mem, same⟩ := List.mem_map.mp h
  exact ⟨a, mem, congrArg Prod.fst same, congrArg (·.2.1) same, congrArg (·.2.2) same⟩

end Kitchen

open Kitchen in
/-- Both updates read the recipe as it was, so the second to rename writes the old title back. -/
theorem update_lost : ¬ NoUpdateLost "roast" Kitchen.pantry Kitchen.crossed := by
  intro law
  obtain ⟨a, memA, callA, requestA, okA⟩ := crossed_ok List.mem_cons_self
  obtain ⟨b, memB, callB, requestB, okB⟩ := crossed_ok (List.mem_cons_of_mem _ List.mem_cons_self)
  obtain ⟨name, recipe, -, held, -, titled, -⟩ := law.updates (by decide +kernel) a memA b memB
    _ _ _ _ okA okB requestA requestB
    (fun c mem _ ne => by
      rcases crossed_cases mem with ⟨at', -⟩ | ⟨-, isRequest⟩
      · exact absurd (at'.trans callA.symm) ne
      · rw [isRequest]; rfl)
    (fun c mem _ ne => by
      rcases crossed_cases mem with ⟨-, isRequest⟩ | ⟨at', -⟩
      · rw [isRequest]; rfl
      · exact absurd (at'.trans callB.symm) ne)
  obtain ⟨file, found, isHeld⟩ := Option.bind_eq_some_iff.mp held
  have entry := AList.mem_lookup_iff.mp found
  rw [crossed_files, List.mem_singleton] at entry
  cases entry
  cases isHeld
  exact absurd titled (by decide +kernel)

end AnovaOven
