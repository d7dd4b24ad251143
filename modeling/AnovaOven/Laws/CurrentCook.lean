import AnovaOven.Laws.Journal

/-!
# One cook's journal

While the oven keeps reporting one cook and none is started, its journal is only rewritten: a report
and a link each change fields of their own, and an atomic write leaves the entry before it or the one
it writes, whatever call of it fails and wherever the process dies. So **every current cook returned**
has the same start and the same extras, and its title and recipe are those of the one before, but for a
link (`currentCook_stable`). The store the run starts from may hold any journal, or none. Reading the
journal doesn't fail.
-/

namespace AnovaOven

open Machine LocalStore

/-! ## Turns -/

/-- What happens to the store: an operation carried out whole, or cut short after some of its calls and
some bytes of the next, by a call that fails or by the death of the process, which starts again. -/
inductive StoreTurn where
  | whole (op : StoreOp)
  | short (op : StoreOp) (done bytes : Nat) (dies : Bool)

namespace StoreTurn

/-- The operation of a turn. -/
def op : StoreTurn → StoreOp
  | whole op => op
  | short op _ _ _ => op

end StoreTurn

/-- The operations while the oven keeps reporting one cook and none is started: reports of the cook,
fetches of it or of no cook, links and restarts. -/
def StoreOp.KeepsReporting (cookId : String) : StoreOp → Prop
  | .ovenReported (some cook) _ => cook.cookId = cookId
  | .currentCook ovenCook _ => ∀ cook, ovenCook = some cook → cook.cookId = cookId
  | .linkCook _ _ => True
  | .restart => True
  | _ => False

/-- What a turn shows: a link that was written, or a current cook that is returned for the oven's. -/
inductive CookNote where
  | linked (recipeId title : String)
  | answered (ovenCook : OvenCook) (cook : CurrentCook)

namespace LocalStore

/-- The store after a turn. -/
def turn (store : LocalStore) : StoreTurn → LocalStore
  | .whole op => store.perform op
  | .short op done bytes dies =>
    { store with
      disk := store.disk.crash (store.fileOps op) done bytes
      watched := if dies then none else store.watched }

/-- What a turn shows. -/
def cookNotes (store : LocalStore) : StoreTurn → List CookNote
  | .whole (.linkCook recipeId title) => [.linked recipeId title]
  | .whole (.currentCook (some cook) now) => match (store.currentCook (some cook) now).2 with
    | .ok (some current) => [.answered cook current]
    | _ => []
  | .short (.linkCook recipeId title) done _ _ =>
    if (store.fileOps (.linkCook recipeId title)).length ≤ done then [.linked recipeId title] else []
  | _ => []

end LocalStore

/-- The store's turns as a machine. -/
def storeTurns : Machine LocalStore StoreTurn CookNote :=
  ⟨fun store turn => (store.turn turn, store.cookNotes turn)⟩

/-! ## Reading a trace -/

/-- Read one note for the title and the recipe of the cook returned last, as linked since. -/
def noteTitle (last : Option (String × Option String)) : CookNote → Option (String × Option String)
  | .linked recipeId title => last.map fun _ => (title, some recipeId)
  | .answered _ cook => some (cook.recipeTitle, cook.recipeId)

/-- The title and the recipe of the cook returned last, as linked since: none before the first. -/
def lastTitle (trace : List CookNote) : Option (String × Option String) := trace.foldl noteTitle none

/-- A cook that is returned has the title and the recipe of the one before it, as linked since. -/
def TitleKept (past : List CookNote) : CookNote → Prop
  | .linked _ _ => True
  | .answered _ cook => ∀ title, lastTitle past = some title →
    (cook.recipeTitle, cook.recipeId) = title

/-- Every cook returned has one start, and its stages are the oven's under one cook's extras. -/
def StartKept (startedAt : String) (extras : CookExtras) (trace : List CookNote) : Prop :=
  ∀ ovenCook cook, .answered ovenCook cook ∈ trace →
    cook.startedAt = startedAt ∧ cook.stages = extras.apply ovenCook.stages

/-! ## What a turn leaves of the journal -/

/-- A journal entry rewritten: of the same cook, with the same start and extras. -/
structure ActiveCook.Continues (active next : ActiveCook) : Prop where
  cookId : next.cookId = active.cookId
  startedAt : next.startedAt = active.startedAt
  extras : next.extras = active.extras

theorem ActiveCook.Continues.refl (active : ActiveCook) : active.Continues active := ⟨rfl, rfl, rfl⟩

/-- An entry's title and recipe. -/
def ActiveCook.title (active : ActiveCook) : String × Option String :=
  (active.recipeTitle, active.recipeId)

variable {store : LocalStore} {active : ActiveCook} {op : StoreOp}

/-- The title and the recipe an operation leaves, where there were some: a link's are its own. -/
def StoreOp.titled (title : String × Option String) : StoreOp → String × Option String
  | .linkCook recipeId title => (title, some recipeId)
  | _ => title

/-- An operation makes no calls, or writes an entry that continues the journal's. -/
theorem fileOps_continues (journal : store.disk.active = some active)
    (same : op.KeepsReporting active.cookId) :
    store.fileOps op = [] ∧ op.titled active.title = active.title ∨
      ∃ next, store.fileOps op = writeActiveCook next ∧ active.Continues next ∧
        next.title = op.titled active.title := by
  cases op with
  | journalStart => cases same
  | ovenReported ovenCook now =>
    cases ovenCook with
    | none => cases same
    | some cook =>
      refine .inr ⟨active.seen cook now, ?_, ⟨rfl, rfl, rfl⟩, rfl⟩
      simp only [fileOps, reconcile, journal, if_pos (Eq.symm same)]
  | currentCook ovenCook now =>
    refine .inl ⟨?_, rfl⟩
    cases ovenCook with
    | none => rfl
    | some cook =>
      have own : store.journals cook.cookId :=
        (store.journals_iff _).mpr ⟨active, journal, (same cook rfl).symm⟩
      simp only [fileOps, own, if_true]
  | linkCook recipeId title =>
    refine .inr ⟨{ active with recipeId := some recipeId, recipeTitle := title }, ?_,
      ⟨rfl, rfl, rfl⟩, rfl⟩
    simp only [fileOps, linkCook, journal]
  | restart => exact .inl ⟨rfl, rfl⟩

/-- An atomic write cut short leaves the journal as it was, or as it is written. -/
theorem crash_write (disk : Disk) (next : ActiveCook) (done bytes : Nat) :
    (disk.crash (writeActiveCook next) done bytes).active =
      if 2 ≤ done then some next else disk.active := by
  rcases done with _ | _ | done
  · show (if bytes = 0 then disk else { disk with tmp := .torn }).active = disk.active
    split <;> rfl
  · rfl
  · simp [Disk.crash, writeActiveCook, FileOp.run]

theorem crash_nil (disk : Disk) (done bytes : Nat) : disk.crash [] done bytes = disk := by
  simp [Disk.crash]

theorem lastTitle_append (past notes : List CookNote) :
    lastTitle (past ++ notes) = notes.foldl noteTitle (lastTitle past) := List.foldl_append

/-- What a fetch of the journal's cook returns. -/
theorem currentCook_own (journal : store.disk.active = some active) {cook : OvenCook}
    (own : cook.cookId = active.cookId) (now : Moment) :
    store.currentCook (some cook) now = (store, .ok (some (active.currentCook cook))) := by
  have journals : store.journals cook.cookId :=
    (store.journals_iff _).mpr ⟨active, journal, own.symm⟩
  simp only [currentCook, journals, if_true, journal]

/-- What a turn shows of the journal's cook is told by its entry. -/
theorem answered_own (journal : store.disk.active = some active) {turn : StoreTurn}
    (same : turn.op.KeepsReporting active.cookId) {ovenCook : OvenCook} {cook : CurrentCook}
    (answered : .answered ovenCook cook ∈ store.cookNotes turn) :
    cook = active.currentCook ovenCook := by
  cases turn with
  | whole op =>
    cases op with
    | currentCook fetched now =>
      cases fetched with
      | none => cases answered
      | some fetched =>
        simp only [cookNotes, currentCook_own journal (same fetched rfl)] at answered
        cases List.mem_singleton.mp answered
        rfl
    | linkCook => cases List.mem_singleton.mp answered
    | journalStart | ovenReported | restart => cases answered
  | short op done bytes dies =>
    cases op with
    | linkCook recipeId title =>
      simp only [cookNotes] at answered
      split at answered
      · cases List.mem_singleton.mp answered
      · cases answered
    | journalStart | ovenReported | currentCook | restart => cases answered

/-- The title a whole operation's notes tell. -/
theorem title_whole (journal : store.disk.active = some active)
    (same : op.KeepsReporting active.cookId) :
    (store.cookNotes (.whole op)).foldl noteTitle (some active.title) =
      some (op.titled active.title) := by
  cases op with
  | currentCook fetched now =>
    cases fetched with
    | none => rfl
    | some fetched =>
      simp only [cookNotes, currentCook_own journal (same fetched rfl)]
      rfl
  | journalStart | ovenReported | linkCook | restart => rfl

/-- The title a short one's tell: its own, if all of its calls were made. -/
theorem title_short (op : StoreOp) (done bytes : Nat) (dies : Bool) :
    (store.cookNotes (.short op done bytes dies)).foldl noteTitle (some active.title) =
      some (if (store.fileOps op).length ≤ done then op.titled active.title else active.title) := by
  cases op with
  | linkCook recipeId title =>
    simp only [cookNotes]
    by_cases all : (store.fileOps (.linkCook recipeId title)).length ≤ done
    · rw [if_pos all, if_pos all]
      rfl
    · rw [if_neg all, if_neg all]
      rfl
  | journalStart | ovenReported | currentCook | restart => exact congrArg some (ite_self _).symm

/-- **A turn** continues the journal's entry, under the title its notes tell. -/
theorem turn_continues (journal : store.disk.active = some active) {turn : StoreTurn}
    (same : turn.op.KeepsReporting active.cookId) :
    ∃ next, (store.turn turn).disk.active = some next ∧ active.Continues next ∧
      (store.cookNotes turn).foldl noteTitle (some active.title) = some next.title := by
  cases turn with
  | whole op =>
    have same : op.KeepsReporting active.cookId := same
    have disk : (store.turn (.whole op)).disk = store.disk.carryOut (store.fileOps op) :=
      store.perform_disk op
    rw [disk, title_whole journal same]
    rcases fileOps_continues journal same with ⟨calls, title⟩ | ⟨next, calls, continues, title⟩
    · rw [calls, title]
      exact ⟨active, journal, .refl active, rfl⟩
    · rw [calls, ← title]
      exact ⟨next, rfl, continues, rfl⟩
  | short op done bytes dies =>
    have same : op.KeepsReporting active.cookId := same
    show ∃ next, (store.disk.crash (store.fileOps op) done bytes).active = some next ∧ _
    rw [title_short]
    rcases fileOps_continues journal same with ⟨calls, title⟩ | ⟨next, calls, continues, title⟩
    · rw [calls, title, ite_self, crash_nil]
      exact ⟨active, journal, .refl active, rfl⟩
    · rw [calls, crash_write, ← title]
      by_cases all : 2 ≤ done
      · rw [if_pos all, if_pos (show (writeActiveCook next).length ≤ done from all)]
        exact ⟨next, rfl, continues, rfl⟩
      · rw [if_neg all, if_neg (show ¬ (writeActiveCook next).length ≤ done from all)]
        exact ⟨active, journal, .refl active, rfl⟩

/-! ## Runs -/

/-- What a run's notes have told, against the journal: nothing returned yet, or an entry of the cook that
has the start and extras of every cook returned, and the title told last. -/
def Told (cookId : String) (store : LocalStore) (past : List CookNote) : Prop :=
  (lastTitle past = none ∧ ∀ ovenCook cook, .answered ovenCook cook ∉ past) ∨
    ∃ active, store.disk.active = some active ∧ active.cookId = cookId ∧
      lastTitle past = some active.title ∧ StartKept active.startedAt active.extras past

/-- A turn shows one thing at most. -/
theorem cookNotes_one (store : LocalStore) (turn : StoreTurn) :
    store.cookNotes turn = [] ∨ ∃ note, store.cookNotes turn = [note] := by
  unfold cookNotes
  split
  · exact .inr ⟨_, rfl⟩
  · split
    · exact .inr ⟨_, rfl⟩
    · exact .inl rfl
  · split
    · exact .inr ⟨_, rfl⟩
    · exact .inl rfl
  · exact .inl rfl

/-- What a turn tells of the journal's cook keeps to its title. -/
theorem along_own (journal : store.disk.active = some active) {turn : StoreTurn}
    (same : turn.op.KeepsReporting active.cookId) {past : List CookNote}
    (told : lastTitle past = some active.title) :
    Along TitleKept past (store.cookNotes turn) := by
  rcases cookNotes_one store turn with none | ⟨note, one⟩
  · rw [none]
    trivial
  · rw [one]
    refine ⟨?_, trivial⟩
    cases note with
    | linked recipeId title => trivial
    | answered ovenCook cook =>
      have answer := answered_own journal same (one ▸ List.mem_singleton_self _)
      intro title last
      rw [told] at last
      rw [answer, ← Option.some.inj last]
      rfl

/-- A turn before the first cook is returned tells no title that must be kept. -/
theorem along_untold {past : List CookNote} (untold : lastTitle past = none) (turn : StoreTurn) :
    Along TitleKept past (store.cookNotes turn) := by
  rcases cookNotes_one store turn with none | ⟨note, one⟩
  · rw [none]
    trivial
  · rw [one]
    refine ⟨?_, trivial⟩
    cases note with
    | linked recipeId title => trivial
    | answered ovenCook cook =>
      intro title last
      rw [untold] at last
      cases last

/-- The first cook that is returned is the journal's from then on. -/
theorem first_answer {cookId : String} {turn : StoreTurn} (same : turn.op.KeepsReporting cookId)
    {ovenCook : OvenCook} {cook : CurrentCook}
    (answered : .answered ovenCook cook ∈ store.cookNotes turn) :
    ∃ active, (store.turn turn).disk.active = some active ∧ active.cookId = cookId ∧
      store.cookNotes turn = [.answered ovenCook (active.currentCook ovenCook)] := by
  cases turn with
  | whole op =>
    cases op with
    | currentCook fetched now =>
      cases fetched with
      | none => cases answered
      | some fetched =>
        obtain ⟨active, journal, answer, of⟩ := store.currentCook_active now fetched
        simp only [cookNotes, answer] at answered ⊢
        cases List.mem_singleton.mp answered
        refine ⟨active, journal, ?_, rfl⟩
        rw [← same ovenCook rfl]
        rcases of with ⟨_, own⟩ | rfl
        · exact own
        · exact journalled_cookId ovenCook
    | linkCook => cases List.mem_singleton.mp answered
    | journalStart | ovenReported | restart => cases answered
  | short op done bytes dies =>
    cases op with
    | linkCook recipeId title =>
      simp only [cookNotes] at answered
      split at answered
      · cases List.mem_singleton.mp answered
      · cases answered
    | journalStart | ovenReported | currentCook | restart => cases answered

/-- **One turn** keeps what has been told. -/
theorem Told.turn {cookId : String} {past : List CookNote} (h : Told cookId store past)
    {turn : StoreTurn} (same : turn.op.KeepsReporting cookId) :
    Told cookId (store.turn turn) (past ++ store.cookNotes turn) ∧
      Along TitleKept past (store.cookNotes turn) := by
  rcases h with ⟨untold, unanswered⟩ | ⟨active, journal, rfl, told, kept⟩
  · refine ⟨?_, along_untold untold turn⟩
    by_cases first : ∃ ovenCook cook, .answered ovenCook cook ∈ store.cookNotes turn
    · obtain ⟨ovenCook, cook, answered⟩ := first
      obtain ⟨active, journal, own, notes⟩ := first_answer same answered
      refine .inr ⟨active, journal, own, ?_, ?_⟩
      · rw [lastTitle_append, notes]
        rfl
      · intro ovenCook' cook' mem
        rcases List.mem_append.mp mem with before | now
        · exact absurd before (unanswered ovenCook' cook')
        · rw [notes] at now
          cases List.mem_singleton.mp now
          exact ⟨rfl, rfl⟩
    · have silent : ∀ ovenCook cook, .answered ovenCook cook ∉ store.cookNotes turn :=
        fun ovenCook cook answered => first ⟨ovenCook, cook, answered⟩
      refine .inl ⟨?_, ?_⟩
      · rw [lastTitle_append, untold]
        rcases cookNotes_one store turn with none | ⟨note, one⟩
        · rw [none]
          rfl
        · rw [one] at silent ⊢
          cases note with
          | linked recipeId title => rfl
          | answered ovenCook cook => exact absurd (List.mem_singleton_self _) (silent ovenCook cook)
      · intro ovenCook cook mem
        rcases List.mem_append.mp mem with before | now
        · exact unanswered ovenCook cook before
        · exact silent ovenCook cook now
  · refine ⟨?_, along_own journal same told⟩
    obtain ⟨next, journal', continues, title⟩ := turn_continues journal same
    refine .inr ⟨next, journal', continues.cookId, ?_, ?_⟩
    · rw [lastTitle_append, told, title]
    · rw [continues.startedAt, continues.extras]
      intro ovenCook cook mem
      rcases List.mem_append.mp mem with before | now
      · exact kept ovenCook cook before
      · rw [answered_own journal same now]
        exact ⟨rfl, rfl⟩

/-- What a run tells from what had been told before. -/
theorem Told.run {cookId : String} {past : List CookNote} (h : Told cookId store past)
    {turns : List StoreTurn} (same : ∀ turn ∈ turns, turn.op.KeepsReporting cookId) :
    Told cookId (storeTurns.run store turns) (past ++ storeTurns.trace store turns) ∧
      Along TitleKept past (storeTurns.trace store turns) := by
  induction turns generalizing store past with
  | nil => exact ⟨by rwa [trace_nil, List.append_nil], trivial⟩
  | cons turn turns ih =>
    obtain ⟨told, kept⟩ := h.turn (same turn List.mem_cons_self)
    obtain ⟨told', kept'⟩ := ih told fun turn mem => same turn (List.mem_cons_of_mem _ mem)
    rw [run_cons, trace_cons, ← List.append_assoc, along_append]
    exact ⟨told', kept, kept'⟩

/-- **A stable journal.** From every store, over every sequence of reports and fetches of one cook,
links, and restarts, any of them cut short by a call that fails or by the death of the process: every
current cook returned has one start and its stages under one cook's extras, and the title and the
recipe of the one before it, but for a link since. -/
theorem currentCook_stable (store : LocalStore) (cookId : String) (turns : List StoreTurn)
    (same : ∀ turn ∈ turns, turn.op.KeepsReporting cookId) :
    (∃ startedAt extras, StartKept startedAt extras (storeTurns.trace store turns)) ∧
      Along TitleKept [] (storeTurns.trace store turns) := by
  have start : Told cookId store [] := .inl ⟨rfl, fun _ _ => List.not_mem_nil⟩
  obtain ⟨told, kept⟩ := start.run same
  refine ⟨?_, kept⟩
  rcases told with ⟨_, unanswered⟩ | ⟨active, _, _, _, kept⟩
  · exact ⟨"", .empty, fun ovenCook cook answered => absurd answered (unanswered ovenCook cook)⟩
  · exact ⟨active.startedAt, active.extras, kept⟩

namespace Kitchen

/-- A roast from the oven's panel: fetched, linked, and fetched again after a
link that was cut short and a restart. -/
def panelRoast : List StoreTurn :=
  [.whole (reportOf (some "roast")), .whole (fetches "roast"),
    .whole (.linkCook "saved" "Sunday roast"), .short (.linkCook "other" "Soup") 1 0 true,
    .whole .restart, .whole (reportOf (some "roast")), .whole (fetches "roast")]

end Kitchen

/-- The roast keeps its start, and shows under the title it was linked to. -/
theorem currentCook_stable_roast :
    (∃ startedAt extras, StartKept startedAt extras
      (storeTurns.trace Kitchen.emptyStore Kitchen.panelRoast)) ∧
      Along TitleKept [] (storeTurns.trace Kitchen.emptyStore Kitchen.panelRoast) :=
  currentCook_stable Kitchen.emptyStore "roast" Kitchen.panelRoast (by
    intro turn mem
    simp only [Kitchen.panelRoast, List.mem_cons, List.not_mem_nil, or_false] at mem
    rcases mem with rfl | rfl | rfl | rfl | rfl | rfl | rfl
    · exact rfl
    · exact fun cook passed => Option.some.inj passed ▸ rfl
    · trivial
    · trivial
    · trivial
    · exact rfl
    · exact fun cook passed => Option.some.inj passed ▸ rfl)

end AnovaOven
