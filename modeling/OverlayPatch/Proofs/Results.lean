import OverlayPatch.Failure
import Mathlib.Data.List.Forall2

/-!
# Results and errors

What a result says about the steps that led to it: how a step that succeeds or fails is told from
the whole, how a loop over a list goes through its items, and which errors may come of it.
-/

namespace OverlayPatch

set_option autoImplicit false

section Results

variable {ε α β γ : Type}

/-! ## Steps -/

theorem map_ok {f : α → β} {result : Except ε α} {b : β} (found : f <$> result = .ok b) :
    ∃ a, result = .ok a ∧ b = f a := by
  cases result with
  | error e => cases found
  | ok a => exact ⟨a, rfl, by cases found; rfl⟩

theorem bind_ok {first : Except ε α} {next : α → Except ε β} {b : β}
    (found : (first >>= next) = .ok b) : ∃ a, first = .ok a ∧ next a = .ok b := by
  cases first with
  | error e => cases found
  | ok a => exact ⟨a, rfl, found⟩

theorem map_error {f : α → β} {result : Except ε α} {e : ε} (failed : f <$> result = .error e) :
    result = .error e := by
  cases result with
  | error e' => simpa using failed
  | ok a => cases failed

/-! ## Lists -/

/-- Working through a list succeeds with one result for each item, in order. -/
theorem forall₂_of_mapM_ok {f : α → Except ε β} {items : List α} {results : List β}
    (found : items.mapM f = .ok results) :
    List.Forall₂ (fun item result => f item = .ok result) items results := by
  induction items generalizing results with
  | nil =>
      cases found
      exact .nil
  | cons item items ih =>
      rw [List.mapM_cons] at found
      obtain ⟨result, first, found⟩ := bind_ok found
      obtain ⟨rest, others, found⟩ := bind_ok found
      cases found
      exact .cons first (ih others)

theorem exists_of_forall₂ {rel : α → β → Prop} {items : List α} {results : List β} {result : β}
    (related : List.Forall₂ rel items results) (member : result ∈ results) :
    ∃ item ∈ items, rel item result := by
  induction related with
  | nil => simp at member
  | cons here _ ih =>
      rcases List.mem_cons.mp member with rfl | member
      · exact ⟨_, by simp, here⟩
      · obtain ⟨item, inside, gives⟩ := ih member
        exact ⟨item, by simp [inside], gives⟩

theorem map_eq_of_forall₂ {rel : α → β → Prop} {f : α → γ} {g : β → γ} {items : List α}
    {results : List β} (related : List.Forall₂ rel items results)
    (agree : ∀ item result, rel item result → f item = g result) :
    items.map f = results.map g := by
  induction related with
  | nil => rfl
  | cons here _ ih => rw [List.map_cons, List.map_cons, agree _ _ here, ih]

/-- Working through a list fails at the first of its items that fails. -/
theorem mapM_eq_error_iff {f : α → Except ε β} {items : List α} {e : ε} :
    items.mapM f = .error e ↔ ∃ before item after, items = before ++ item :: after ∧
      (∀ earlier ∈ before, ∃ result, f earlier = .ok result) ∧ f item = .error e := by
  constructor
  · intro failed
    induction items with
    | nil => cases failed
    | cons item items ih =>
        rw [List.mapM_cons] at failed
        cases first : f item with
        | error e' =>
            rw [first] at failed
            cases failed
            exact ⟨[], item, items, rfl, by simp, first⟩
        | ok result =>
            rw [first] at failed
            cases others : items.mapM f with
            | error e' =>
                rw [others] at failed
                cases failed
                obtain ⟨before, found, after, rfl, earlier, fails⟩ := ih others
                exact ⟨item :: before, found, after, rfl,
                  List.forall_mem_cons.mpr ⟨⟨result, first⟩, earlier⟩, fails⟩
            | ok results =>
                rw [others] at failed
                cases failed
  · rintro ⟨before, item, after, rfl, earlier, failed⟩
    induction before with
    | nil =>
        rw [List.nil_append, List.mapM_cons, failed]
        rfl
    | cons first before ih =>
        obtain ⟨⟨result, here⟩, earlier⟩ := List.forall_mem_cons.mp earlier
        rw [List.cons_append, List.mapM_cons, here, ih earlier]
        rfl

/-- An error of a loop is that of one of its items. -/
theorem exists_of_mapM_error {f : α → Except ε β} {items : List α} {e : ε}
    (failed : items.mapM f = .error e) : ∃ item ∈ items, f item = .error e := by
  obtain ⟨before, item, after, rfl, -, here⟩ := mapM_eq_error_iff.mp failed
  exact ⟨item, by simp, here⟩

theorem mapM_ok_map {f : α → Except ε β} {g : α → β} {items : List α}
    (each : ∀ item ∈ items, f item = .ok (g item)) : items.mapM f = .ok (items.map g) := by
  induction items with
  | nil => rfl
  | cons item items ih =>
      rw [List.mapM_cons, each item List.mem_cons_self,
        ih fun other member => each other (List.mem_cons_of_mem _ member)]
      rfl

theorem mapM_ok_of_forall {f : α → Except ε β} {items : List α}
    (each : ∀ item ∈ items, ∃ result, f item = .ok result) :
    ∃ results, items.mapM f = .ok results := by
  induction items with
  | nil => exact ⟨[], rfl⟩
  | cons item items ih =>
      obtain ⟨result, first⟩ := each item (by simp)
      obtain ⟨rest, others⟩ := ih fun item' member => each item' (by simp [member])
      exact ⟨result :: rest, by rw [List.mapM_cons, first, others]; rfl⟩

/-! ### Checks behind each item -/

variable {code : α → Except ε β} {items : List α} {results : List β}

theorem mapM_ok_of_forall₂
    (each : List.Forall₂ (fun item result => code item = .ok result) items results) :
    items.mapM code = .ok results := by
  induction each with
  | nil => rfl
  | cons here _ ih =>
      rw [List.mapM_cons, here, ih]
      rfl

/-- Where all items succeed, checking each as it comes is checking all of them afterwards. -/
theorem mapM_bind_of_mapM_ok {check : β → Except ε γ} (found : items.mapM code = .ok results) :
    items.mapM (fun item => code item >>= check) = results.mapM check := by
  have each := forall₂_of_mapM_ok found
  clear found
  induction each with
  | nil => rfl
  | cons here _ ih =>
      rw [List.mapM_cons, List.mapM_cons, here, ih]
      rfl

/-- A check that changes nothing can be left out if it was passed. -/
theorem mapM_ok_of_mapM_bind {check : β → Except ε β} (keeps : ∀ b c, check b = .ok c → c = b)
    (found : items.mapM (fun item => code item >>= check) = .ok results) :
    items.mapM code = .ok results := by
  refine mapM_ok_of_forall₂ ((forall₂_of_mapM_ok found).imp ?_)
  intro item result passed
  obtain ⟨b, here, checked⟩ := bind_ok passed
  rw [here, keeps b result checked]

/-! ## Errors -/

/-- Every error is one of those that are allowed. -/
def OnlyErrors (allowed : ε → Prop) (result : Except ε α) : Prop :=
  ∀ error, result = .error error → allowed error

variable {allowed : ε → Prop}

theorem onlyErrors_ok (a : α) : OnlyErrors allowed (.ok a : Except ε α) :=
  fun _ failed => nomatch failed

theorem onlyErrors_error {error : ε} (here : allowed error) :
    OnlyErrors allowed (.error error : Except ε α) := by
  intro other failed
  cases failed
  exact here

/-- Two steps have the errors of both. -/
theorem onlyErrors_bind {first : Except ε α} {next : α → Except ε β}
    (here : OnlyErrors allowed first) (rest : ∀ a, OnlyErrors allowed (next a)) :
    OnlyErrors allowed (first >>= next) := by
  cases first with
  | error error => exact onlyErrors_error (here error rfl)
  | ok a => exact rest a

theorem onlyErrors_mapM {step : α → Except ε β} {items : List α}
    (each : ∀ item ∈ items, OnlyErrors allowed (step item)) :
    OnlyErrors allowed (items.mapM step) := by
  intro error failed
  obtain ⟨item, member, here⟩ := exists_of_mapM_error failed
  exact each item member error here

/-! ### Failures that are no faults -/

/-- If the failure is a fault, it is one of these. -/
def Failure.IfFault (these : Fault → Prop) (failure : Failure) : Prop :=
  ∀ fault, failure = .fault fault → these fault

variable {these : Fault → Prop}

theorem Failure.ifFault_fault {fault : Fault} (here : these fault) :
    (Failure.fault fault).IfFault these := by
  intro other same
  cases same
  exact here

theorem onlyErrors_other {failure : Failure} (other : ∀ fault, failure ≠ .fault fault) :
    OnlyErrors (Failure.IfFault these) (.error failure : Except Failure α) :=
  onlyErrors_error fun fault same => absurd same (other fault)

/-- An error that is turned into no fault. -/
theorem onlyErrors_mapError {result : Except ε α} {f : ε → Failure}
    (other : ∀ e fault, f e ≠ .fault fault) :
    OnlyErrors (Failure.IfFault these) (result.mapError f) := by
  cases result with
  | error e => exact onlyErrors_other (other e)
  | ok a => exact onlyErrors_ok a

end Results

end OverlayPatch
