import Heritage.Store.Paging
import Heritage.Store.Transaction

/-!
# Pages of the client portal

What the paginated reads of the portal share: which page a number asks for,
and which pages a reader shows for the rows there are.
-/

namespace Heritage.Portal

open Heritage.Store

/-- `Number.MAX_SAFE_INTEGER`. -/
def maxSafeInteger : Nat := 9007199254740991

/-- `Number.isSafeInteger`, for a finite number. -/
def isSafeInteger (value : Rat) : Bool :=
  value.den = 1 ∧ value.num.natAbs ≤ maxSafeInteger

/-- A page that is not a positive safe integer is the first one. -/
def requestedPage (page : Rat) : Nat :=
  if isSafeInteger page ∧ 1 ≤ page then page.num.toNat else 1

theorem requestedPage_natCast {number : Nat} (isPage : 1 ≤ number)
    (isSafe : number ≤ maxSafeInteger) :
    requestedPage (number : Rat) = number := by
  have safe : isSafeInteger (number : Rat) := by
    simpa [isSafeInteger] using isSafe
  have positive : (1 : Rat) ≤ (number : Rat) := by
    exact_mod_cast isPage
  unfold requestedPage
  rw [if_pos ⟨safe, positive⟩]
  simp

/-- What a paginated read answers. -/
inductive PageResult (α : Type) where
  | redirect
  | page (shown : α)
  deriving DecidableEq, Repr

section Reading

variable {ρ α : Type}

/-- The reads of the portal: page 1 is read at once, and a later page after
the rows were counted.  `find skip take` reads rows in order and `toPage`
makes a page of them. -/
def readPage (pageSize total : Nat) (find : Nat → Nat → List ρ)
    (toPage : List ρ → Nat → Bool → α) (page : Rat) : PageResult α :=
  let requested := requestedPage page
  if requested = 1 then
    .page (toPage (find 0 (pageSize + 1)) 1 false)
  else
    if lastPage pageSize total < requested then
      .redirect
    else
      let rows := find ((requested - 1) * pageSize) (pageSize + 1)
      if rows.isEmpty then .redirect else .page (toPage rows requested true)

/-- The reader shows the rows page by page, knows the last page and turns
away from every number after it. -/
structure ShowsAll (pageSize : Nat) (rows : List ρ)
    (read : Rat → PageResult α) (pageFor : Nat → List ρ → Bool → α) :
    Prop where
  pages :
    ∀ number, 1 ≤ number → number ≤ lastPage pageSize rows.length →
      read (number : Rat) =
        .page
          (pageFor number (pageOf number pageSize rows)
            (number < lastPage pageSize rows.length))
  concatenated :
    ((List.range (lastPage pageSize rows.length)).flatMap fun index =>
        pageOf (index + 1) pageSize rows) = rows
  beyond :
    ∀ number, lastPage pageSize rows.length < number →
      number ≤ maxSafeInteger → read (number : Rat) = .redirect

/-- The number of rows is one that `count` returns as it is. -/
theorem lastPage_isSafe {pageSize count : Nat} (positive : 0 < pageSize)
    (counted : count ≤ maxSafeInteger) :
    lastPage pageSize count ≤ maxSafeInteger := by
  by_contra tooMany
  have previous : maxSafeInteger * pageSize < count :=
    (lt_lastPage_iff positive (by decide)).mp (not_le.mp tooMany)
  have atLeast : maxSafeInteger ≤ maxSafeInteger * pageSize :=
    Nat.le_mul_of_pos_right _ positive
  omega

theorem readPage_showsAll {pageSize : Nat} (positive : 0 < pageSize)
    {rows : List ρ} (counted : rows.length ≤ maxSafeInteger)
    {find : Nat → Nat → List ρ} {toPage : List ρ → Nat → Bool → α}
    {pageFor : Nat → List ρ → Bool → α}
    (finds : ∀ skip take, find skip take = (rows.drop skip).take take)
    (makes :
      ∀ number, 1 ≤ number →
        toPage (lookAhead number pageSize rows) number (1 < number) =
          pageFor number (pageOf number pageSize rows)
            (number < lastPage pageSize rows.length)) :
    ShowsAll pageSize rows (readPage pageSize rows.length find toPage)
      pageFor where
  pages := by
    intro number isPage inRange
    have isSafe : number ≤ maxSafeInteger :=
      inRange.trans (lastPage_isSafe positive counted)
    have reads :
        find ((number - 1) * pageSize) (pageSize + 1) =
          lookAhead number pageSize rows :=
      finds _ _
    unfold readPage
    simp only [requestedPage_natCast isPage isSafe]
    by_cases first : number = 1
    · subst first
      rw [if_pos rfl, ← makes 1 (Nat.le_refl 1), finds]
      simp [lookAhead]
    · have later : 1 < number := by omega
      have notEmpty : lookAhead number pageSize rows ≠ [] :=
        lookAhead_ne_nil positive later inRange
      rw [if_neg first, if_neg (Nat.not_lt.mpr inRange), reads,
        if_neg (by simpa using notEmpty), ← makes number isPage]
      simp [later]
  concatenated := flatMap_pages positive rows
  beyond := by
    intro number tooFar isSafe
    have isPage : 1 ≤ number :=
      (Nat.le_max_left 1 _).trans (Nat.le_of_lt tooFar)
    have notFirst : number ≠ 1 := by
      have atLeast : 1 ≤ lastPage pageSize rows.length := Nat.le_max_left 1 _
      omega
    unfold readPage
    simp only [requestedPage_natCast isPage isSafe]
    rw [if_neg notFirst, if_pos tooFar]

end Reading

end Heritage.Portal
