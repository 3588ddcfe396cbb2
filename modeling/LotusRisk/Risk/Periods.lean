import LotusRisk.Ordinals

/-! The periods of a risk request, and the dates they resolve to. -/

namespace LotusRisk
set_option autoImplicit true

/-- The canonical types; the aliases are normalized to them. -/
inductive PeriodType where
  | explicit
  | year
  | mtd
  | qtd
  | ytd
  | oneYear
  | threeYear
  | fiveYear
  | sinceInception
deriving DecidableEq, Repr

def PeriodType.text : PeriodType → String
  | .explicit => "EXPLICIT"
  | .year => "YEAR"
  | .mtd => "MTD"
  | .qtd => "QTD"
  | .ytd => "YTD"
  | .oneYear => "1Y"
  | .threeYear => "3Y"
  | .fiveYear => "5Y"
  | .sinceInception => "SI"

structure RiskRequestPeriod where
  type : PeriodType
  name : Option String
  fromDate : Option Date
  toDate : Option Date
  year : Option Int
  explicit_dates : type = .explicit → fromDate.isSome ∧ toDate.isSome
  year_given : type = .year → year.isSome

/-- A calendar year under its own name. -/
def yearPeriod (year : Int) : RiskRequestPeriod where
  type := .year
  name := none
  fromDate := none
  toDate := none
  year := some year
  explicit_dates := nofun
  year_given := fun _ => rfl

/-- `period.name or period.type`. -/
def RiskRequestPeriod.resolvedName (period : RiskRequestPeriod) : String :=
  match period.name with
  | some name => if name = "" then period.type.text else name
  | none => period.type.text

section Resolution

theorem one_le_daysInMonth (year month : Nat) : 1 ≤ daysInMonth year month := by
  rw [daysInMonth]
  split
  · split <;> decide
  · split <;> decide

/-- The first day of a month of the year of a date. -/
def firstOfMonth (d : Date) (month : Nat) (h : 1 ≤ month ∧ month ≤ 12) : Date :=
  ⟨d.year, month, 1, d.valid.1, d.valid.2.1, h.1, h.2, le_rfl, one_le_daysInMonth _ _⟩

theorem month_bounds (d : Date) : 1 ≤ d.month ∧ d.month ≤ 12 := ⟨d.valid.2.2.1, d.valid.2.2.2.1⟩

theorem quarterStart_bounds (d : Date) :
    1 ≤ (d.month - 1) / 3 * 3 + 1 ∧ (d.month - 1) / 3 * 3 + 1 ≤ 12 := by
  have h := month_bounds d
  omega

def resolveExplicitPeriod (fromDate toDate : Option Date) : Except PyException (Date × Date) :=
  match fromDate, toDate with
  | some fromDate, some toDate => .ok (fromDate, toDate)
  | _, _ => .error (.valueError "EXPLICIT period requires from/to dates")

/-- The year of `date(year, 1, 1)` and `date(year, 12, 31)`. -/
def resolveYearPeriod : Option Int → Except PyException (Date × Date)
  | none => .error (.valueError "YEAR period requires year")
  | some year =>
    match dateOfFields? year.toNat 1 1, dateOfFields? year.toNat 12 31 with
    | some first, some last => .ok (first, last)
    | _, _ => .error (.valueError s!"year {year} is out of range")

/-- `as_of - timedelta(days=365 * years) + timedelta(days=1)`. -/
def resolveTrailingYearPeriod (years : Nat) (asOf : Date) : Except PyException (Date × Date) :=
  if asOf.toordinal ≤ 365 * years then .error (.overflowError "date value out of range")
  else
    match Date.fromordinal (asOf.toordinal - 365 * years + 1) with
    | some start => .ok (start, asOf)
    | none => .error (.overflowError "date value out of range")

def resolvePeriodBounds (period : RiskRequestPeriod) (asOf openDate : Date) :
    Except PyException (Date × Date) :=
  match period.type with
  | .explicit => resolveExplicitPeriod period.fromDate period.toDate
  | .year => resolveYearPeriod period.year
  | .ytd => .ok (firstOfMonth asOf 1 ⟨le_rfl, by decide⟩, asOf)
  | .qtd => .ok (firstOfMonth asOf ((asOf.month - 1) / 3 * 3 + 1) (quarterStart_bounds asOf), asOf)
  | .mtd => .ok (firstOfMonth asOf asOf.month (month_bounds asOf), asOf)
  | .oneYear => resolveTrailingYearPeriod 1 asOf
  | .threeYear => resolveTrailingYearPeriod 3 asOf
  | .fiveYear => resolveTrailingYearPeriod 5 asOf
  | .sinceInception => .ok (openDate, asOf)

def resolvePeriod (period : RiskRequestPeriod) (asOf openDate : Date) :
    Except PyException (Date × Date) := do
  let (start, stop) ← resolvePeriodBounds period asOf openDate
  .ok (max start openDate, stop)

/-- Calendar years are as requested; every other type but the explicit one ends at the as-of
date. -/
theorem end_of_resolvePeriodBounds {period : RiskRequestPeriod}
    (htype : period.type ≠ .explicit)
    (h : resolvePeriodBounds period asOf openDate = .ok (start, stop)) :
    stop = asOf ∨ period.type = .year ∧ ∃ year, period.year = some year ∧ year = stop.year ∧
      stop.month = 12 ∧ stop.day = 31 := by
  have htrailing : ∀ years, resolveTrailingYearPeriod years asOf = .ok (start, stop) →
      stop = asOf := by
    intro years h
    rw [resolveTrailingYearPeriod] at h
    split at h
    · cases h
    · split at h
      · cases h
        rfl
      · cases h
  cases ht : period.type with
  | explicit => exact absurd ht htype
  | year =>
    simp only [resolvePeriodBounds, ht] at h
    cases hyear : period.year with
    | none =>
      rw [hyear] at h
      cases h
    | some year =>
      rw [hyear, resolveYearPeriod] at h
      split at h
      · rename_i first last _ hlast
        cases h
        obtain ⟨hy, hm, hd⟩ := dateOfFields?_eq_some.1 hlast
        have hpos := stop.valid.1
        exact .inr ⟨rfl, year, rfl, by omega, hm, hd⟩
      · cases h
  | oneYear =>
    simp only [resolvePeriodBounds, ht] at h
    exact .inl (htrailing 1 h)
  | threeYear =>
    simp only [resolvePeriodBounds, ht] at h
    exact .inl (htrailing 3 h)
  | fiveYear =>
    simp only [resolvePeriodBounds, ht] at h
    exact .inl (htrailing 5 h)
  | _ =>
    simp only [resolvePeriodBounds, ht] at h
    cases h
    exact .inl rfl

end Resolution

end LotusRisk
