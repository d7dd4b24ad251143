import AnovaOven.Pico.Browse
import Mathlib.Data.List.Destutter

/-!
# Laws of browsing

While the handler waits, its snapshot and its index stay as they were when it rendered, whatever is published,
so the recipe a press takes is the one on the screen. The invariant (`Browser.Follows`) says so, of the loop
and of all that was rendered: **in range** (`rendered_inRange`) and **what is shown is started**
(`started_shown`).

**A clockwise walk** (`walk_shown`) over a list that stays the same renders it from its first recipe to its
last. Positions count within a source, so of each source the walk shows the positions in order
(`views_source`), wherever its recipes stand in the list.
-/

namespace AnovaOven

/-! ## The loop's top -/

/-- A snapshot whose recipes can be browsed. -/
structure Browsable (snap : ApiSnapshot) : Prop where
  online : snap.isOffline = false
  idle : snap.isCooking = false
  some : snap.recipes ≠ []

namespace Browsing

/-- The index is in range, where the loop waits with one, and the loop didn't stop at one that isn't. -/
def InRange : Browsing → Prop
  | .waiting snap index _ => index < snap.recipes.length
  | .returned _ => True
  | .panicked => False

/-- The loop is at its `select3`. -/
def Waits (loop : Browsing) : Prop := ∃ snap index deadline, loop = .waiting snap index deadline

theorem top_browsable {snap : ApiSnapshot} (browsable : Browsable snap) (index deadline : Nat) :
    top snap index deadline =
      (.waiting snap (min index (snap.recipes.length - 1)) deadline,
        [.render ⟨snap.recipes, min index (snap.recipes.length - 1)⟩]) := by
  have some := List.length_pos_of_ne_nil browsable.some
  have inside : min index (snap.recipes.length - 1) < snap.recipes.length := by omega
  have item := List.getElem?_eq_getElem inside
  have nonempty : snap.recipes.isEmpty = false := List.isEmpty_eq_false_iff.mpr browsable.some
  unfold top recipeBrowserView
  simp only [browsable.online, browsable.idle, nonempty, item, Bool.false_eq_true, if_false,
    Option.map_some]

/-- The loop's top renders the recipe at its index, in range, or returns. -/
theorem top_cases (snap : ApiSnapshot) (index deadline : Nat) :
    (∃ next, top snap index deadline = (.returned next, [])) ∨
      ∃ i, i < snap.recipes.length ∧
        top snap index deadline = (.waiting snap i deadline, [.render ⟨snap.recipes, i⟩]) := by
  by_cases browsable : Browsable snap
  · have some := List.length_pos_of_ne_nil browsable.some
    exact .inr ⟨min index (snap.recipes.length - 1), by omega, top_browsable browsable index deadline⟩
  · left
    by_cases offline : snap.isOffline = true
    · exact ⟨.offline, if_pos offline⟩
    · by_cases cooking : snap.isCooking = true
      · exact ⟨.cooking none, (if_neg offline).trans (if_pos cooking)⟩
      · have empty : snap.recipes.isEmpty = true := by
          by_contra some
          exact browsable ⟨Bool.eq_false_iff.mpr offline, Bool.eq_false_iff.mpr cooking,
            fun none => some (List.isEmpty_iff.mpr none)⟩
        exact ⟨.idle, (if_neg offline).trans ((if_neg cooking).trans (if_pos empty))⟩

end Browsing

/-! ## What a step does -/

/-- The recipes that were rendered, in order. -/
def rendered (effects : List BrowseEffect) : List ShownRecipe :=
  effects.filterMap fun effect => match effect with
    | .render shown => some shown
    | _ => none

theorem rendered_append (a b : List BrowseEffect) : rendered (a ++ b) = rendered a ++ rendered b :=
  List.filterMap_append

namespace Browser

/-- **What the loop knows**: while it waits, its index is in range and the recipe there was rendered last. -/
def Follows (b : Browser) (said : List BrowseEffect) : Prop :=
  match b.loop with
  | .waiting snap index _ =>
    index < snap.recipes.length ∧ (rendered said).getLast? = some ⟨snap.recipes, index⟩
  | .returned _ => True
  | .panicked => False

theorem Follows.inRange {b : Browser} {said : List BrowseEffect} (follows : b.Follows said) :
    b.loop.InRange := by
  obtain ⟨published, loop⟩ := b
  cases loop with
  | waiting => exact follows.1
  | returned => trivial
  | panicked => exact follows

/-- **What a step does**: nothing, a return, a render of what is published, or, at a press, a start of the
recipe at the index. -/
inductive Handled (b : Browser) (input : BrowseInput) : Browsing × List BrowseEffect → Prop
  | stays : Handled b input (b.loop, [])
  | returns (next : AppState) : Handled b input (.returned next, [])
  | renders (index deadline : Nat) (inside : index < b.published.recipes.length) :
    Handled b input (.waiting b.published index deadline, [.render ⟨b.published.recipes, index⟩])
  | starts (snap : ApiSnapshot) (index deadline now : Nat) (recipe : Recipe)
    (waits : b.loop = .waiting snap index deadline) (press : input = .event .encoderButton now)
    (item : snap.recipes[index]? = some recipe) :
    Handled b input (.returned (.startPending recipe.title recipe.id now),
      [.start recipe.id, .renderStarting recipe.title])

/-- The loop's top returns or renders. -/
theorem handled_top (b : Browser) (input : BrowseInput) (index deadline : Nat) :
    Handled b input (Browsing.top b.published index deadline) := by
  rcases Browsing.top_cases b.published index deadline with ⟨next, eq⟩ | ⟨i, inside, eq⟩
  · rw [eq]
    exact .returns next
  · rw [eq]
    exact .renders i deadline inside

/-- A press takes the recipe at the index. -/
theorem handle_press {b : Browser} {snap : ApiSnapshot} {index deadline now : Nat}
    (waits : b.loop = .waiting snap index deadline) (inside : index < snap.recipes.length) :
    b.handle (.event .encoderButton now) =
      Browsing.leave (.startPending snap.recipes[index].title snap.recipes[index].id now) := by
  unfold handle
  rw [waits]
  unfold Browsing.onEvent
  dsimp only
  rw [List.getElem?_eq_getElem inside]

/-- Each step is one of these, while the loop knows what it does. -/
theorem handle_cases {b : Browser} {said : List BrowseEffect} (follows : b.Follows said)
    (input : BrowseInput) : Handled b input (b.handle input) := by
  obtain ⟨published, loop⟩ := b
  cases loop with
  | panicked => exact follows.elim
  | returned next =>
    cases input with
    | execute index now => exact handled_top _ _ index _
    | _ => exact .stays
  | waiting snap index deadline =>
    obtain ⟨inside, _⟩ := follows
    cases input with
    | execute | publish => exact .stays
    | apiChanged => exact handled_top _ _ index deadline
    | timeout now =>
      show Handled _ _ (if deadline ≤ now then Browsing.leave .idle else _)
      split
      · exact .returns .idle
      · exact .stays
    | event event now =>
      cases event with
      | encoderCw => exact handled_top _ _ _ _
      | encoderCcw =>
        show Handled _ _ (if index = 0 then Browsing.leave .idle else _)
        split
        · exact .returns .idle
        · exact handled_top _ _ _ _
      | encoderButton =>
        rw [handle_press rfl inside]
        exact .starts snap index deadline now _ rfl rfl (List.getElem?_eq_getElem inside)

namespace Handled

variable {b : Browser} {input : BrowseInput} {out : Browsing × List BrowseEffect}

/-- A step keeps what the loop knows. -/
theorem follows {said : List BrowseEffect} (handled : Handled b input out) (follows : b.Follows said)
    (published : ApiSnapshot) : Follows ⟨published, out.1⟩ (said ++ out.2) := by
  cases handled with
  | stays =>
    rw [List.append_nil]
    exact follows
  | returns => trivial
  | renders index deadline inside =>
    refine ⟨inside, ?_⟩
    rw [rendered_append]
    exact List.getLast?_concat
  | starts => trivial

/-- What a step renders is in range. -/
theorem render_inside (handled : Handled b input out) {shown : ShownRecipe}
    (said : .render shown ∈ out.2) : shown.index < shown.recipes.length := by
  cases handled with
  | stays | returns => cases said
  | renders index deadline inside =>
    cases List.mem_singleton.mp said
    exact inside
  | starts =>
    rcases List.mem_cons.mp said with eq | said
    · cases eq
    · cases List.mem_singleton.mp said

/-- A step that starts a recipe is a press, and the recipe is the one at the loop's index. -/
theorem start_press (handled : Handled b input out) {id : String} (said : .start id ∈ out.2) :
    (∃ now, input = .event .encoderButton now) ∧
      ∃ snap index deadline recipe, b.loop = .waiting snap index deadline ∧
        snap.recipes[index]? = some recipe ∧ recipe.id = id := by
  cases handled with
  | stays | returns => cases said
  | renders => cases List.mem_singleton.mp said
  | starts snap index deadline now recipe waits press item =>
    refine ⟨⟨now, press⟩, snap, index, deadline, recipe, waits, item, ?_⟩
    rcases List.mem_cons.mp said with eq | said
    · exact (BrowseEffect.start.inj eq).symm
    · cases List.mem_singleton.mp said

end Handled

/-! ## Runs -/

theorem start_follows (inputs : List BrowseInput) :
    (browser.run .start inputs).Follows (browser.trace .start inputs) := by
  have nothing : Browser.start.Follows [] := trivial
  exact Machine.run_told (I := Follows) nothing
    (fun _ _ input knows => (handle_cases knows input).follows knows _) inputs

/-- **In range**: wherever a recipe is rendered, there is one at the index. -/
theorem rendered_inRange (inputs : List BrowseInput) :
    ∀ shown ∈ rendered (browser.trace .start inputs), shown.index < shown.recipes.length := by
  intro shown item
  obtain ⟨effect, said, renders⟩ := List.mem_filterMap.mp item
  cases effect with
  | render other =>
    cases renders
    obtain ⟨past, input, _, _, said⟩ := Machine.mem_trace said
    exact (handle_cases (start_follows past) input).render_inside said
  | _ => cases renders

/-- **What is shown is started.** A recipe is started by a press only, and is the one rendered last. -/
theorem started_shown (inputs : List BrowseInput) {input : BrowseInput} {id : String}
    (started : .start id ∈ browser.effects (browser.run .start inputs) input) :
    (∃ now, input = .event .encoderButton now) ∧
      ∃ shown recipe, (rendered (browser.trace .start inputs)).getLast? = some shown ∧
        shown.recipes[shown.index]? = some recipe ∧ recipe.id = id := by
  have knows := start_follows inputs
  obtain ⟨press, snap, index, _, recipe, waits, item, eq⟩ := (handle_cases knows input).start_press started
  unfold Follows at knows
  rw [waits] at knows
  exact ⟨press, ⟨snap.recipes, index⟩, recipe, knows.2, item, eq⟩

/-- **A press starts**, while the browser waits. -/
theorem press_starts (inputs : List BrowseInput) (now : Nat) (waits : (browser.run .start inputs).loop.Waits) :
    ∃ id, .start id ∈ browser.effects (browser.run .start inputs) (.event .encoderButton now) := by
  obtain ⟨snap, index, deadline, waits⟩ := waits
  have inside := (start_follows inputs).inRange
  rw [waits] at inside
  refine ⟨(snap.recipes.get ⟨index, inside⟩).id, ?_⟩
  show _ ∈ ((browser.run .start inputs).handle (.event .encoderButton now)).2
  rw [handle_press waits inside]
  exact List.mem_cons_self

end Browser

/-! ## Views -/

/-- **Views of a source**: of the first recipes of a list, those of one source are viewed at the positions of
that source in order, as so many of all of its recipes. -/
theorem views_source (recipes : List Recipe) (source : RecipeSource) {n : Nat} (within : n ≤ recipes.length) :
    ((List.range n).filterMap (recipeBrowserView recipes)).filter (fun view => view.source = source) =
      ((recipes.take n).filter fun r => r.source = source).mapIdx fun i recipe =>
        ⟨source, (recipes.filter fun r => r.source = source).length, i, recipe.title⟩ := by
  induction n with
  | zero => rfl
  | succ n ih =>
    have inside : n < recipes.length := within
    have item := List.getElem?_eq_getElem inside
    rw [List.range_succ, List.filterMap_append, List.filter_append, ih (Nat.le_of_lt inside),
      List.take_add_one, item, List.filter_append]
    by_cases same : recipes[n].source = source
    · simp [recipeBrowserView, item, same]
    · simp [recipeBrowserView, item, same]

/-- A bookmark between two recipes of one's own is the first of one, and they are the first and second of two. -/
example : (List.range 3).filterMap (recipeBrowserView
    [⟨"a", "Bread", 0, [], .own⟩, ⟨"b", "Cake", 0, [], .bookmarked⟩, ⟨"c", "Duck", 0, [], .own⟩]) =
    [⟨.own, 2, 0, "Bread"⟩, ⟨.bookmarked, 1, 0, "Cake"⟩, ⟨.own, 2, 1, "Duck"⟩] := by decide

/-! ## A clockwise walk -/

/-- The browser over a list, with its index at a recipe, and what is published of the same list. -/
structure Walks (recipes : List Recipe) (k : Nat) (b : Browser) : Prop where
  published : Browsable b.published
  same : b.published.recipes = recipes
  inside : k < recipes.length
  waits : ∃ snap deadline, b.loop = .waiting snap k deadline ∧ snap.recipes = recipes

/-- What may happen in a walk: the knob turns on, or the same list is published again. -/
def OnWalk (recipes : List Recipe) : BrowseInput → Prop
  | .event .encoderCw _ => True
  | .publish snapshot => Browsable snapshot ∧ snapshot.recipes = recipes
  | .apiChanged => True
  | _ => False

/-- A turn of the knob, clockwise. -/
def isTurn : BrowseInput → Bool
  | .event .encoderCw _ => true
  | _ => false

section Walk

variable {recipes : List Recipe} {k : Nat} {b : Browser}

/-- A step through the loop's top renders the recipe at its index. -/
theorem Walks.renders (walks : Walks recipes k b) {input : BrowseInput} {index deadline : Nat}
    (published : b.publishes input = b.published)
    (top : b.handle input = Browsing.top b.published index deadline) :
    Walks recipes (min index (recipes.length - 1)) (browser.next b input) ∧
      browser.effects b input = [.render ⟨recipes, min index (recipes.length - 1)⟩] := by
  obtain ⟨browsable, rfl, inside, _⟩ := walks
  have at' := top.trans (Browsing.top_browsable browsable index deadline)
  have next : browser.next b input = ⟨b.published, .waiting b.published
      (min index (b.published.recipes.length - 1)) deadline⟩ := by
    show Browser.mk (b.publishes input) (b.handle input).1 = _
    rw [published, at']
  refine ⟨?_, congrArg Prod.snd at'⟩
  rw [next]
  exact ⟨browsable, rfl, by show min index _ < _; omega, _, _, rfl, rfl⟩

/-- **A turn** renders the next recipe, or the last again. -/
theorem walk_turn (walks : Walks recipes k b) {input : BrowseInput} (turn : isTurn input = true) :
    Walks recipes (min (k + 1) (recipes.length - 1)) (browser.next b input) ∧
      browser.effects b input = [.render ⟨recipes, min (k + 1) (recipes.length - 1)⟩] := by
  obtain ⟨snap, deadline, waits, same⟩ := walks.waits
  cases input with
  | event event now =>
    cases event with
    | encoderCw =>
      have top : b.handle (.event .encoderCw now) =
          Browsing.top b.published (min (k + 1) (recipes.length - 1)) (Browsing.deadlineAfter now) := by
        unfold Browser.handle
        rw [waits, ← same]
        rfl
      have renders := walks.renders rfl top
      rwa [Nat.min_assoc, Nat.min_self] at renders
    | _ => cases turn
  | _ => cases turn

/-- **Anything else** renders the same recipe again, or nothing. -/
theorem walk_quiet (walks : Walks recipes k b) {input : BrowseInput} (on : OnWalk recipes input)
    (quiet : isTurn input = false) :
    Walks recipes k (browser.next b input) ∧
      (browser.effects b input = [] ∨ browser.effects b input = [.render ⟨recipes, k⟩]) := by
  obtain ⟨snap, deadline, waits, same⟩ := walks.waits
  cases input with
  | publish snapshot =>
    exact ⟨⟨on.1, on.2, walks.inside, snap, deadline, waits, same⟩, .inl rfl⟩
  | apiChanged =>
    have top : b.handle .apiChanged = Browsing.top b.published k deadline := by
      unfold Browser.handle
      rw [waits]
    have last : min k (recipes.length - 1) = k := by
      have inside := walks.inside
      omega
    obtain ⟨walks', renders⟩ := walks.renders rfl top
    rw [last] at walks' renders
    exact ⟨walks', .inr renders⟩
  | event event now =>
    cases event with
    | encoderCw => cases quiet
    | _ => exact on.elim
  | _ => exact on.elim

/-- **A walk** renders, but for repeats, the recipes from its index on, one for each turn. -/
theorem walk_rendered {inputs : List BrowseInput} (walks : Walks recipes k b)
    (on : ∀ input ∈ inputs, OnWalk recipes input) :
    (rendered (browser.trace b inputs)).destutter' (· ≠ ·) ⟨recipes, k⟩ =
      (List.range' k (min (k + inputs.countP isTurn) (recipes.length - 1) + 1 - k)).map
        (ShownRecipe.mk recipes) := by
  induction inputs generalizing k b with
  | nil =>
    have inside := walks.inside
    have one : min (k + 0) (recipes.length - 1) + 1 - k = 1 := by omega
    rw [List.countP_nil, one]
    rfl
  | cons input inputs ih =>
    have here := on input List.mem_cons_self
    have later : ∀ input ∈ inputs, OnWalk recipes input := fun i item => on i (List.mem_cons_of_mem _ item)
    have inside := walks.inside
    rw [Machine.trace_cons, rendered_append]
    by_cases turn : isTurn input = true
    · obtain ⟨walks', renders⟩ := walk_turn walks turn
      have rest := ih walks' later
      rw [renders, List.countP_cons_of_pos turn]
      show List.destutter' (· ≠ ·) (ShownRecipe.mk recipes k)
        (.mk recipes (min (k + 1) (recipes.length - 1)) :: rendered (browser.trace _ inputs)) = _
      by_cases more : k + 1 < recipes.length
      · have next : min (k + 1) (recipes.length - 1) = k + 1 := by omega
        rw [next] at rest ⊢
        have other : ShownRecipe.mk recipes k ≠ ShownRecipe.mk recipes (k + 1) := fun same =>
          absurd (congrArg ShownRecipe.index same) (Nat.ne_of_lt (Nat.lt_succ_self k))
        have count : min (k + (inputs.countP isTurn + 1)) (recipes.length - 1) + 1 - k =
            (min (k + 1 + inputs.countP isTurn) (recipes.length - 1) + 1 - (k + 1)) + 1 := by omega
        rw [List.destutter'_cons_pos _ other, rest, count, List.range'_succ]
        rfl
      · have last : min (k + 1) (recipes.length - 1) = k := by omega
        rw [last] at rest ⊢
        rw [List.destutter'_cons_neg, rest]
        · congr 2
          omega
        · exact fun ne => ne rfl
    · have quiet := Bool.eq_false_iff.mpr turn
      obtain ⟨walks', renders⟩ := walk_quiet walks here quiet
      rw [List.countP_cons_of_neg turn, ← ih walks' later]
      rcases renders with renders | renders
      · rw [renders]
        rfl
      · rw [renders]
        exact List.destutter'_cons_neg _ fun ne => ne rfl

end Walk

/-- **A full walk**, from the browser opened at a list's first recipe: it shows all of them in order. -/
theorem walk_shown {published : ApiSnapshot} (browsable : Browsable published) (next : AppState)
    (now : Nat) {inputs : List BrowseInput} (on : ∀ input ∈ inputs, OnWalk published.recipes input)
    (full : published.recipes.length ≤ inputs.countP isTurn + 1) :
    (rendered (browser.trace ⟨published, .returned next⟩ (.execute 0 now :: inputs))).destutter (· ≠ ·) =
      (List.range published.recipes.length).map (ShownRecipe.mk published.recipes) := by
  have some := List.length_pos_of_ne_nil browsable.some
  have opened := Browsing.top_browsable browsable 0 (Browsing.deadlineAfter now)
  rw [Nat.zero_min] at opened
  have next' : browser.next ⟨published, .returned next⟩ (.execute 0 now) =
      ⟨published, .waiting published 0 (Browsing.deadlineAfter now)⟩ :=
    congrArg (fun out : Browsing × List BrowseEffect => Browser.mk published out.1) opened
  have renders : browser.effects ⟨published, .returned next⟩ (.execute 0 now) =
      [.render ⟨published.recipes, 0⟩] := congrArg Prod.snd opened
  have walks : Walks published.recipes 0 ⟨published, .waiting published 0 (Browsing.deadlineAfter now)⟩ :=
    ⟨browsable, rfl, some, _, _, rfl, rfl⟩
  have all : min (0 + inputs.countP isTurn) (published.recipes.length - 1) + 1 - 0 =
      published.recipes.length := by omega
  have shown := walk_rendered walks on
  rw [all, ← List.range_eq_range'] at shown
  rw [Machine.trace_cons, next', renders]
  exact shown

/-! ## Browsing starts what it shows -/

/-- **Browsing.** Whatever is published and whatever comes from the knob, in any order:

* the index is in range wherever it is used, by the loop while it waits and by the view that is rendered;
* a recipe is started by a press only, and is the one rendered last before it; and while the browser waits, a
  press starts one;
* a full clockwise walk over a list that stays the same shows, of each source, its recipes in the order of
  the list, at the positions from 0 on, out of as many as there are. -/
theorem browse_starts_shown :
    (∀ inputs : List BrowseInput,
      (browser.run .start inputs).loop.InRange ∧
      ∀ shown ∈ rendered (browser.trace .start inputs), shown.index < shown.recipes.length) ∧
    (∀ (inputs : List BrowseInput) (input : BrowseInput) (id : String),
      .start id ∈ browser.effects (browser.run .start inputs) input →
        (∃ now, input = .event .encoderButton now) ∧
        ∃ shown recipe, (rendered (browser.trace .start inputs)).getLast? = some shown ∧
          shown.recipes[shown.index]? = some recipe ∧ recipe.id = id) ∧
    (∀ (inputs : List BrowseInput) (now : Nat), (browser.run .start inputs).loop.Waits →
      ∃ id, .start id ∈ browser.effects (browser.run .start inputs) (.event .encoderButton now)) ∧
    ∀ (published : ApiSnapshot) (next : AppState) (now : Nat) (inputs : List BrowseInput)
      (source : RecipeSource), Browsable published →
      (∀ input ∈ inputs, OnWalk published.recipes input) →
      published.recipes.length ≤ inputs.countP isTurn + 1 →
      (((rendered (browser.trace ⟨published, .returned next⟩ (.execute 0 now :: inputs))).destutter
        (· ≠ ·)).filterMap ShownRecipe.view).filter (fun view => view.source = source) =
      (published.recipes.filter fun r => r.source = source).mapIdx fun i recipe =>
        ⟨source, (published.recipes.filter fun r => r.source = source).length, i, recipe.title⟩ := by
  refine ⟨fun inputs => ⟨?_, ?_⟩, ?_, ?_, ?_⟩
  · exact (Browser.start_follows inputs).inRange
  · exact Browser.rendered_inRange inputs
  · exact fun inputs input id started => Browser.started_shown inputs started
  · exact Browser.press_starts
  · intro published next now inputs source browsable on full
    rw [walk_shown browsable next now on full, List.filterMap_map]
    have views := views_source published.recipes source (Nat.le_refl _)
    rw [List.take_length] at views
    exact views

namespace Kitchen

/-- Two recipes of the user's and a bookmarked one between them, after so many failures to fetch. -/
def browsed (failCount : Nat) : ApiSnapshot where
  status := none
  currentCook := none
  recipes := [⟨"loaf", "Loaf", 0, [], .own⟩, ⟨"tart", "Tart", 0, [], .bookmarked⟩, ⟨"bun", "Bun", 0, [], .own⟩]
  failCount := failCount
  lastSuccessAt := some 1
  timerAnchor := none
  ovenMissingSince := none

/-- The knob is turned past the list's end, and the list is published again in between. -/
def walk : List BrowseInput :=
  [.event .encoderCw 1, .publish (browsed 1), .apiChanged, .event .encoderCw 2, .event .encoderCw 3]

theorem walk_onWalk : ∀ input ∈ walk, OnWalk (browsed 0).recipes input := by
  intro input item
  simp only [walk, List.mem_cons, List.not_mem_nil, or_false] at item
  rcases item with rfl | rfl | rfl | rfl | rfl
  case inr.inl => exact ⟨⟨rfl, rfl, List.cons_ne_nil _ _⟩, rfl⟩
  all_goals trivial

end Kitchen

open Kitchen in
/-- A walk over three recipes shows the two that are the user's. -/
theorem browse_starts_shown_walk :
    (((rendered (browser.trace ⟨browsed 0, .returned .idle⟩ (.execute 0 0 :: walk))).destutter
      (· ≠ ·)).filterMap ShownRecipe.view).filter (fun view => view.source = .own) =
      [⟨.own, 2, 0, "Loaf"⟩, ⟨.own, 2, 1, "Bun"⟩] :=
  browse_starts_shown.2.2.2 (browsed 0) .idle 0 walk .own ⟨rfl, rfl, List.cons_ne_nil _ _⟩ walk_onWalk (by decide)

end AnovaOven
