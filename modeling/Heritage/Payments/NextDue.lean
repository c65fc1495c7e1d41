import Heritage.Payments.Calculations

/-!
# The next payment due

`computeNextPaymentDue` is the least due date of the open installments, in any
order.  `computeNextPaymentDueAmount` adds up what is outstanding at that date
and rounds every running total, so it is the sum only where the roundings
cancel.
-/

namespace Heritage.Payments

open Heritage.Store

variable {installments other : List InstallmentForNextDue}

/-- Something of the installment is still to be paid. -/
def InstallmentForNextDue.IsOpen (installment : InstallmentForNextDue) :
    Prop :=
  0 < installment.outstandingAmount

instance (installment : InstallmentForNextDue) :
    Decidable installment.IsOpen :=
  inferInstanceAs (Decidable (0 < installment.outstandingAmount))

/-- The installments that are not settled. -/
def openInstallments (installments : List InstallmentForNextDue) :
    List InstallmentForNextDue :=
  installments.filter fun installment => installment.IsOpen

theorem mem_openInstallments {installment : InstallmentForNextDue} :
    installment ∈ openInstallments installments ↔
      installment ∈ installments ∧ installment.IsOpen := by
  simp only [openInstallments, List.mem_filter, decide_eq_true_eq]

/-- One turn of the loop keeps the earlier of the date it has and an open
one. -/
def earlierDue (earliest : Option Timestamp)
    (installment : InstallmentForNextDue) : Option Timestamp :=
  if installment.outstandingAmount ≤ (0 : Int) then
    earliest
  else
    match earliest with
    | none => some installment.dueDate
    | some date =>
        if installment.dueDate < date then some installment.dueDate
        else some date

theorem foldl_earlierDue (earliest : Option Timestamp) :
    installments.foldl earlierDue earliest =
      (earliest.toList ++
        (openInstallments installments).map
          InstallmentForNextDue.dueDate).min? := by
  induction installments generalizing earliest with
  | nil =>
      cases earliest with
      | none =>
          rfl
      | some date =>
          rfl
  | cons head tail inductionHypothesis =>
      rw [List.foldl_cons, inductionHypothesis]
      by_cases isOpen : head.IsOpen
      · have unsettled : ¬ head.outstandingAmount ≤ (0 : Int) :=
          not_le.mpr isOpen
        have kept :
            openInstallments (head :: tail) =
              head :: openInstallments tail :=
          List.filter_cons_of_pos (decide_eq_true isOpen)
        rw [kept, List.map_cons]
        cases earliest with
        | none =>
            simp only [earlierDue, if_neg unsettled]
            rfl
        | some date =>
            by_cases isEarlier : head.dueDate < date
            · have least : min date head.dueDate = head.dueDate :=
                min_eq_right (le_of_lt isEarlier)
              simp only [earlierDue, if_neg unsettled, if_pos isEarlier,
                Option.toList_some,
                List.singleton_append, List.min?_cons', List.foldl_cons,
                least]
            · have least : min date head.dueDate = date :=
                min_eq_left (not_lt.mp isEarlier)
              simp only [earlierDue, if_neg unsettled, if_neg isEarlier,
                Option.toList_some,
                List.singleton_append, List.min?_cons', List.foldl_cons,
                least]
      · have settled : head.outstandingAmount ≤ (0 : Int) :=
          not_lt.mp isOpen
        have dropped :
            openInstallments (head :: tail) = openInstallments tail :=
          List.filter_cons_of_neg fun kept => isOpen (of_decide_eq_true kept)
        simp only [earlierDue, if_pos settled, dropped]

theorem computeNextPaymentDue_eq :
    computeNextPaymentDue installments =
      ((openInstallments installments).map
        InstallmentForNextDue.dueDate).min? :=
  foldl_earlierDue none

theorem computeNextPaymentDue_eq_some_iff {date : Timestamp} :
    computeNextPaymentDue installments = some date ↔
      IsLeast
        {due | ∃ installment ∈ installments,
          0 < installment.outstandingAmount ∧ installment.dueDate = due}
        date := by
  rw [computeNextPaymentDue_eq, List.min?_eq_some_iff]
  have mem_iff :
      ∀ due,
        due ∈ (openInstallments installments).map
            InstallmentForNextDue.dueDate ↔
          ∃ installment ∈ installments,
            0 < installment.outstandingAmount ∧
              installment.dueDate = due := by
    intro due
    simp only [List.mem_map, mem_openInstallments, and_assoc,
      InstallmentForNextDue.IsOpen]
  constructor
  · rintro ⟨member, least⟩
    refine ⟨(mem_iff date).mp member, ?_⟩
    intro due isDue
    exact least due ((mem_iff due).mpr isDue)
  · rintro ⟨member, least⟩
    refine ⟨(mem_iff date).mpr member, ?_⟩
    intro due isDue
    exact least ((mem_iff due).mp isDue)

theorem computeNextPaymentDue_eq_none_iff :
    computeNextPaymentDue installments = none ↔
      ∀ installment ∈ installments,
        ¬ 0 < installment.outstandingAmount := by
  rw [computeNextPaymentDue_eq, List.min?_eq_none_iff, List.map_eq_nil_iff,
    openInstallments, List.filter_eq_nil_iff]
  constructor
  · intro noneOpen installment member isOpen
    exact noneOpen installment member (decide_eq_true isOpen)
  · intro noneOpen installment member isOpen
    exact noneOpen installment member (of_decide_eq_true isOpen)

/-- The amounts outstanding at a date, in the order of the list. -/
def amountsAt (installments : List InstallmentForNextDue)
    (date : Timestamp) : List Int :=
  (installments.filter fun installment =>
      installment.dueDate = date ∧
        0 < installment.outstandingAmount).map
    InstallmentForNextDue.outstandingAmount

theorem computeNextPaymentDueAmount_of_due {date : Timestamp}
    (isDue : computeNextPaymentDue installments = some date) :
    computeNextPaymentDueAmount installments =
      some
        (roundedSum Decimal.rounded 0 (amountsAt installments date)) := by
  rw [computeNextPaymentDueAmount, isDue, amountsAt, roundedSum,
    List.foldl_map, List.foldl_filter]
  simp only [decide_eq_true_eq, gt_iff_lt, Decimal.plus]

theorem computeNextPaymentDueAmount_eq_none_iff :
    computeNextPaymentDueAmount installments = none ↔
      computeNextPaymentDue installments = none := by
  cases isDue : computeNextPaymentDue installments with
  | none =>
      simp only [computeNextPaymentDueAmount, isDue]
  | some date =>
      simp only [computeNextPaymentDueAmount_of_due isDue, reduceCtorEq]

/-- An installment due at the date leaves something outstanding there. -/
theorem amountsAt_sum_pos {date : Timestamp}
    (isDue : computeNextPaymentDue installments = some date) :
    0 < (amountsAt installments date).sum := by
  obtain ⟨installment, member, isOpen, sameDate⟩ :=
    (computeNextPaymentDue_eq_some_iff.mp isDue).1
  apply List.sum_pos
  · intro amount amountMember
    obtain ⟨due, dueMember, rfl⟩ := List.mem_map.mp amountMember
    exact (of_decide_eq_true (List.mem_filter.mp dueMember).2).2
  · apply List.ne_nil_of_mem
    apply List.mem_map_of_mem
    exact
      List.mem_filter.mpr ⟨member, decide_eq_true ⟨sameDate, isOpen⟩⟩

theorem amountsAt_eq (date : Timestamp) :
    amountsAt installments date =
      ((openInstallments installments).filter fun installment =>
          installment.dueDate = date).map
        InstallmentForNextDue.outstandingAmount := by
  rw [amountsAt, openInstallments, List.filter_filter]
  apply congrArg (List.map InstallmentForNextDue.outstandingAmount)
  apply List.filter_congr
  intro installment _
  rw [Bool.decide_and]
  rfl

theorem computeNextPaymentDue_congr
    (sameOpen :
      (openInstallments installments).Perm (openInstallments other)) :
    computeNextPaymentDue installments = computeNextPaymentDue other := by
  apply Option.ext
  intro date
  have sameDates :
      ∀ due,
        due ∈ (openInstallments installments).map
            InstallmentForNextDue.dueDate ↔
          due ∈ (openInstallments other).map InstallmentForNextDue.dueDate :=
    fun due => (sameOpen.map InstallmentForNextDue.dueDate).mem_iff
  rw [computeNextPaymentDue_eq, computeNextPaymentDue_eq,
    List.min?_eq_some_iff, List.min?_eq_some_iff]
  simp only [sameDates]

theorem amountsAt_perm
    (sameOpen :
      (openInstallments installments).Perm (openInstallments other))
    (date : Timestamp) :
    (amountsAt installments date).Perm (amountsAt other date) := by
  rw [amountsAt_eq, amountsAt_eq]
  exact (sameOpen.filter _).map _

/-- The open installments, in their order, decide both values. -/
theorem computeNextPaymentDueAmount_congr
    (sameOpen : openInstallments installments = openInstallments other) :
    computeNextPaymentDueAmount installments =
      computeNextPaymentDueAmount other := by
  have sameDue :=
    computeNextPaymentDue_congr (List.Perm.of_eq sameOpen)
  cases isDue : computeNextPaymentDue other with
  | none =>
      rw [isDue] at sameDue
      rw [computeNextPaymentDueAmount_eq_none_iff.mpr sameDue,
        computeNextPaymentDueAmount_eq_none_iff.mpr isDue]
  | some date =>
      rw [isDue] at sameDue
      rw [computeNextPaymentDueAmount_of_due sameDue,
        computeNextPaymentDueAmount_of_due isDue, amountsAt_eq, amountsAt_eq,
        sameOpen]

/-! ## Rounding -/

/-- In whatever order the installments are listed, the roundings of the
running totals at the earliest open due date cancel. -/
def RoundingsCancel (installments : List InstallmentForNextDue) : Prop :=
  ∀ date,
    IsLeast
        {due | ∃ installment ∈ installments,
          0 < installment.outstandingAmount ∧ installment.dueDate = due}
        date →
      ∀ other, other.Perm installments →
        roundingErrors Decimal.rounded 0 (amountsAt other date) = 0

/-- Any of the amounts outstanding at one date have a sum of at most twenty
significant digits. -/
def SumsFit (installments : List InstallmentForNextDue) : Prop :=
  ∀ date, ∀ part : List Int, part.Sublist (amountsAt installments date) →
    HasSignificantDigits Decimal.precision part.sum

/-- Some of the open installments are left, the others have been settled. -/
def LeftOpen (installments later : List InstallmentForNextDue) : Prop :=
  (later.filter fun installment =>
      0 < installment.outstandingAmount).Sublist
    (installments.filter fun installment =>
      0 < installment.outstandingAmount)

theorem rounded_eq_self_iff {value : Int} :
    Decimal.rounded value = value ↔
      HasSignificantDigits Decimal.precision value :=
  toSignificantDigits_eq_self_iff (by decide)

theorem rounded_idem (value : Int) :
    Decimal.rounded (Decimal.rounded value) = Decimal.rounded value :=
  toSignificantDigits_idem (by decide) value

/-- What the two values say of a list of installments. -/
structure NextDue (installments : List InstallmentForNextDue) : Prop where
  earliest :
    ∀ date,
      computeNextPaymentDue installments = some date ↔
        IsLeast
          {due | ∃ installment ∈ installments,
            0 < installment.outstandingAmount ∧ installment.dueDate = due}
          date
  nothingDue :
    computeNextPaymentDue installments = none ↔
      ∀ installment ∈ installments, ¬ 0 < installment.outstandingAmount
  amount :
    ∀ date, computeNextPaymentDue installments = some date →
      computeNextPaymentDueAmount installments =
        some
          ((installments.filter fun installment =>
              installment.dueDate = date ∧
                0 < installment.outstandingAmount).map
            InstallmentForNextDue.outstandingAmount).sum
  noAmount :
    computeNextPaymentDueAmount installments = none ↔
      computeNextPaymentDue installments = none
  positive :
    ∀ amount, computeNextPaymentDueAmount installments = some amount →
      0 < amount
  reordered :
    ∀ other, other.Perm installments →
      computeNextPaymentDue other = computeNextPaymentDue installments ∧
        computeNextPaymentDueAmount other =
          computeNextPaymentDueAmount installments
  /-- The lists agree up to installments with nothing outstanding. -/
  settled :
    ∀ other,
      (other.filter fun installment => 0 < installment.outstandingAmount) =
          (installments.filter fun installment =>
            0 < installment.outstandingAmount) →
      computeNextPaymentDue other = computeNextPaymentDue installments ∧
        computeNextPaymentDueAmount other =
          computeNextPaymentDueAmount installments

/-- The amount is the exact sum when the roundings cancel. -/
theorem amount_eq_sum_iff {date : Timestamp}
    (isDue : computeNextPaymentDue installments = some date) :
    computeNextPaymentDueAmount installments =
        some (amountsAt installments date).sum ↔
      roundingErrors Decimal.rounded 0 (amountsAt installments date) = 0 := by
  rw [computeNextPaymentDueAmount_of_due isDue, Option.some.injEq]
  exact roundedSum_eq_sum_iff

theorem amount_eq_sum_of_cancel {date : Timestamp}
    (cancel : RoundingsCancel installments)
    (isDue : computeNextPaymentDue installments = some date) :
    computeNextPaymentDueAmount installments =
      some (amountsAt installments date).sum := by
  have isLeast := computeNextPaymentDue_eq_some_iff.mp isDue
  apply (amount_eq_sum_iff isDue).mpr
  exact cancel date isLeast installments (List.Perm.refl installments)

theorem nextDue_of_roundingsCancel (cancel : RoundingsCancel installments) :
    NextDue installments where
  earliest _ := computeNextPaymentDue_eq_some_iff
  nothingDue := computeNextPaymentDue_eq_none_iff
  amount _ isDue := amount_eq_sum_of_cancel cancel isDue
  noAmount := computeNextPaymentDueAmount_eq_none_iff
  positive := by
    intro amount isAmount
    cases isDue : computeNextPaymentDue installments with
    | none =>
        rw [computeNextPaymentDueAmount_eq_none_iff.mpr isDue] at isAmount
        cases isAmount
    | some date =>
        rw [amount_eq_sum_of_cancel cancel isDue] at isAmount
        obtain rfl := Option.some.inj isAmount
        exact amountsAt_sum_pos isDue
  reordered := by
    intro other reordered
    have sameOpen := reordered.filter fun installment => installment.IsOpen
    have sameDue := computeNextPaymentDue_congr sameOpen
    refine ⟨sameDue, ?_⟩
    cases isDue : computeNextPaymentDue installments with
    | none =>
        rw [isDue] at sameDue
        rw [computeNextPaymentDueAmount_eq_none_iff.mpr sameDue,
          computeNextPaymentDueAmount_eq_none_iff.mpr isDue]
    | some date =>
        rw [isDue] at sameDue
        have isLeast := computeNextPaymentDue_eq_some_iff.mp isDue
        have otherSum :=
          (amount_eq_sum_iff sameDue).mpr
            (cancel date isLeast other reordered)
        rw [otherSum, amount_eq_sum_of_cancel cancel isDue,
          (amountsAt_perm sameOpen date).sum_eq]
  settled := by
    intro other same
    have sameOpen :
        openInstallments other = openInstallments installments := same
    exact
      ⟨computeNextPaymentDue_congr (List.Perm.of_eq sameOpen),
        computeNextPaymentDueAmount_congr sameOpen⟩

/-- An amount that no reordering changes is the sum in every order. -/
theorem roundingsCancel_of_nextDue (agree : NextDue installments) :
    RoundingsCancel installments := by
  intro date isLeast other reordered
  have isDue := computeNextPaymentDue_eq_some_iff.mpr isLeast
  obtain ⟨sameDue, sameAmount⟩ := agree.reordered other reordered
  rw [isDue] at sameDue
  have sameOpen := reordered.filter fun installment => installment.IsOpen
  apply (amount_eq_sum_iff sameDue).mp
  rw [sameAmount, agree.amount date isDue,
    (amountsAt_perm sameOpen date).sum_eq]
  rfl

theorem roundingsCancel_of_sumsFit (fit : SumsFit installments) :
    RoundingsCancel installments := by
  intro date _ other reordered
  have sameOpen := reordered.filter fun installment => installment.IsOpen
  have sameAmounts := amountsAt_perm sameOpen date
  apply roundedSum_eq_sum_iff.mp
  apply roundedSum_eq_sum_of_parts
  intro part isPart
  exact
    rounded_eq_self_iff.mpr
      (forall_parts_of_perm sameAmounts (fit date) part isPart)

theorem sumsFit_of_leftOpen {later : List InstallmentForNextDue}
    (left : LeftOpen installments later) (fit : SumsFit installments) :
    SumsFit later := by
  intro date part isPart
  apply fit date part
  rw [amountsAt_eq] at isPart ⊢
  exact isPart.trans ((left.filter _).map _)

/-- Settling the other installments leaves any part of the amounts at a date to
be added up. -/
theorem roundedSum_part_of_agree
    (agree : ∀ later, LeftOpen installments later → NextDue later)
    {date : Timestamp} {part : List Int}
    (isPart : part.Sublist (amountsAt installments date)) :
    roundedSum Decimal.rounded 0 part = part.sum := by
  rw [amountsAt] at isPart
  obtain ⟨later, isLater, rfl⟩ := List.sublist_map_iff.mp isPart
  have allDue :
      ∀ installment ∈ later,
        installment.dueDate = date ∧ 0 < installment.outstandingAmount := by
    intro installment member
    have kept := List.mem_filter.mp (isLater.subset member)
    exact of_decide_eq_true kept.2
  have laterAmounts :
      amountsAt later date =
        later.map InstallmentForNextDue.outstandingAmount := by
    rw [amountsAt, List.filter_eq_self.mpr]
    intro installment member
    exact decide_eq_true (allDue installment member)
  have left : LeftOpen installments later := by
    have sublist := isLater.trans List.filter_sublist
    have opened :=
      sublist.filter fun installment =>
        decide (0 < installment.outstandingAmount)
    exact opened
  by_cases empty : later = []
  · rw [empty]
    rfl
  · have isDue : computeNextPaymentDue later = some date := by
      apply computeNextPaymentDue_eq_some_iff.mpr
      obtain ⟨first, member⟩ := List.exists_mem_of_ne_nil later empty
      constructor
      · exact ⟨first, member, (allDue first member).2, (allDue first member).1⟩
      · rintro due ⟨installment, isMember, _, rfl⟩
        exact le_of_eq (allDue installment isMember).1.symm
    have amount := (agree later left).amount date isDue
    rw [computeNextPaymentDueAmount_of_due isDue, laterAmounts] at amount
    have exactSum := Option.some.inj amount
    rw [← amountsAt, laterAmounts] at exactSum
    exact exactSum

theorem sumsFit_of_leftOpen_agree
    (agree : ∀ later, LeftOpen installments later → NextDue later) :
    SumsFit installments := by
  intro date part isPart
  have added :
      ∀ smaller : List Int, smaller.Sublist (amountsAt installments date) →
        roundedSum Decimal.rounded 0 smaller = smaller.sum :=
    fun _ isSmaller => roundedSum_part_of_agree agree isSmaller
  have unrounded := (roundedSum_parts_iff rounded_idem rfl).mp added
  exact rounded_eq_self_iff.mp (unrounded part isPart)

/-- Twenty digits are enough for everything due at one date. -/
theorem sumsFit_of_total_le
    (bounded :
      ∀ date, (amountsAt installments date).sum ≤ 10 ^ 20) :
    SumsFit installments := by
  intro date part isPart
  have positive :
      ∀ amount ∈ amountsAt installments date, 0 ≤ amount := by
    intro amount member
    obtain ⟨due, dueMember, rfl⟩ := List.mem_map.mp member
    have isOpen := (of_decide_eq_true (List.mem_filter.mp dueMember).2).2
    exact le_of_lt isOpen
  have partPositive : 0 ≤ part.sum := by
    apply List.sum_nonneg
    intro amount member
    exact positive amount (isPart.subset member)
  have partLe : part.sum ≤ (amountsAt installments date).sum :=
    isPart.sum_le_sum positive
  have total := bounded date
  apply hasSignificantDigits_of_le
  · rw [Decimal.precision]
    omega
  · decide

/-- A hundred and one installments of the largest amount, due the same day. -/
def largestInstallments : List InstallmentForNextDue :=
  List.replicate 101
    { dueDate := 0, outstandingAmount := 999999999999999999 }

end Heritage.Payments
