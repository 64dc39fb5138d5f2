import FeatureFlags.Proofs.Rollout.Selection

/-!
# What a rollout looks at

Of a context, a condition looks at the values of its field, unless the field stands for the current
moment (`supplied_congr`), and a strategy with a share looks at the attributes by which it buckets
(`identity_congr`). The walk looks at nothing else: two contexts for which these are the same go
through it side by side, with the same table at every strategy (`walk_congr`).

The main statement says so of attributes: two contexts that agree on those that the strategies name
get the same strategy, and their buckets are asked for with the same identities.
-/

set_option autoImplicit false

namespace FeatureFlags

/-- Whether two contexts have the same values of an attribute. Not to have an attribute is the same
as to have it without a value. -/
def Attributes.AgreeOn (a b : Attributes) (name : String) : Prop :=
  (a.getAll name).getD [] = (b.getAll name).getD []

/-- The first value is the same where all values are. -/
theorem Attributes.AgreeOn.get_eq {a b : Attributes} {name : String} (h : a.AgreeOn b name) :
    a.get name = b.get name := by
  have hfirst : ∀ o : Option (List String), o.bind List.head? = (o.getD []).head? := by
    intro o
    cases o <;> rfl
  unfold AgreeOn at h
  unfold Attributes.get
  rw [hfirst, hfirst, h]

instance (a b : Attributes) (name : String) : Decidable (a.AgreeOn b name) :=
  inferInstanceAs (Decidable (_ = _))

namespace Rollout

/-- Whether two contexts agree on the field of a condition. The clock has the values of a field that
stands for the current moment. -/
def AgreeOnField (a b : Attributes) (c : Condition) : Prop :=
  Text.sameLetters c.fieldName nowField = false → a.AgreeOn b c.fieldName

/-- Whether two contexts agree on all attributes that some strategies look at. -/
structure AgreeFor (strategies : List Strategy) (a b : Attributes) : Prop where
  /-- They agree on the fields of the conditions. -/
  fields : ∀ s ∈ strategies, ∀ c ∈ s.conditions, AgreeOnField a b c
  /-- They agree on the attributes by which strategies with a share bucket. -/
  buckets : ∀ s ∈ strategies, s.share ≠ 0 →
    ∀ name ∈ s.percentageAttributes, a.AgreeOn b name
  /-- They agree on session and user if a strategy with a share does not say by what it buckets. -/
  identity : (∃ s ∈ strategies, s.share ≠ 0 ∧ s.percentageAttributes = []) →
    a.AgreeOn b Attributes.sessionKey ∧ a.AgreeOn b Attributes.userKey

section Lookups

variable {a b : Attributes}

/-- The clock supplies the values for the current moment, whatever a context has under its name. -/
theorem supplied_congr {c : Condition} (now : Moment) (h : AgreeOnField a b c) :
    supplied now a c = supplied now b c := by
  unfold supplied
  cases hclock : Text.sameLetters c.fieldName nowField with
  | true => rfl
  | false => exact h hclock

/-- Whether a condition holds depends on the values of its field only. -/
theorem conditionHolds_congr {c : Condition} (now : Moment) (h : AgreeOnField a b c) :
    conditionHolds now a c = conditionHolds now b c := by
  unfold conditionHolds
  rw [supplied_congr now h]

/-- Whether all conditions hold depends on the values of their fields only. -/
theorem conditionsHold_congr {s : Strategy} (now : Moment)
    (h : ∀ c ∈ s.conditions, AgreeOnField a b c) :
    conditionsHold now a s = conditionsHold now b s := by
  rw [Bool.eq_iff_iff]
  unfold conditionsHold
  rw [List.all_eq_true, List.all_eq_true]
  refine forall₂_congr fun c hc => ?_
  rw [conditionHolds_congr now (h c hc)]

/-- The identity by which a strategy buckets depends on the attributes that it names only, or on the
session and the user. -/
theorem identity_congr {s : Strategy} (hnames : ∀ name ∈ s.percentageAttributes, a.AgreeOn b name)
    (hdefault : s.percentageAttributes = [] →
      a.AgreeOn b Attributes.sessionKey ∧ a.AgreeOn b Attributes.userKey) :
    identity a s = identity b s := by
  unfold identity
  by_cases hnone : s.percentageAttributes = []
  · obtain ⟨hsession, huser⟩ := hdefault hnone
    rw [hnone]
    simp only [List.isEmpty_nil, if_true, Attributes.identity, hsession.get_eq, huser.get_eq]
  · have hparts : s.percentageAttributes.map (fun name => (a.get name).getD noValue) =
        s.percentageAttributes.map fun name => (b.get name).getD noValue :=
      List.map_congr_left fun name hname => by rw [(hnames name hname).get_eq]
    rw [if_neg (by simpa using hnone), if_neg (by simpa using hnone), hparts]

end Lookups

/-- Two contexts go through the walk side by side if every strategy with a share buckets them by the
same identity, and if all strategies find the same conditions satisfied. -/
theorem walk_congr {setting : Setting} {a b : Attributes} (featureId : String)
    {strategies : List Strategy}
    (hidentity : ∀ s ∈ strategies, s.share ≠ 0 → identity a s = identity b s)
    (hconditions : ∀ s ∈ strategies,
      conditionsHold setting.now a s = conditionsHold setting.now b s)
    (index : Nat) (taken : Table String Taken) :
    walk setting featureId a index taken strategies =
      walk setting featureId b index taken strategies := by
  induction strategies generalizing index taken with
  | nil => rfl
  | cons s rest ih =>
    have hrest := ih (fun t ht => hidentity t (List.mem_cons_of_mem s ht))
      (fun t ht => hconditions t (List.mem_cons_of_mem s ht))
    have hhere := hconditions s List.mem_cons_self
    by_cases hshare : s.share = 0
    · rw [walk, walk, if_pos hshare, if_pos hshare, hhere, hrest]
    · rw [walk_cons_of_share index rest hshare, walk_cons_of_share index rest hshare,
        hidentity s List.mem_cons_self hshare, hhere, hrest]

/-- Contexts that agree on the attributes that the strategies look at get the same strategy, and the
same buckets are asked for. What a context has under a name for the current moment does not matter
to any condition. -/
theorem unrelated_attributes_ignored (setting : Setting) :
    (∀ strategies featureId a b, AgreeFor strategies a b →
        apply setting strategies featureId a = apply setting strategies featureId b) ∧
      ∀ a b, (∀ name, Text.sameLetters name nowField = false → a.AgreeOn b name) →
        ∀ c, conditionHolds setting.now a c = conditionHolds setting.now b c := by
  refine ⟨fun strategies featureId a b h => ?_,
    fun a b h c => conditionHolds_congr setting.now (h c.fieldName)⟩
  refine walk_congr featureId (fun s hs hshare => ?_) (fun s hs => ?_) 0 .empty
  · exact identity_congr (h.buckets s hs hshare) fun hnone => h.identity ⟨s, hs, hshare, hnone⟩
  · exact conditionsHold_congr setting.now (h.fields s hs)

/-- Another user of the same company, who brings along a date of her own. -/
theorem unrelated_attributes_ignored_for_colleague :
    let home : Condition := ⟨.equals, Attributes.country, [.string "new_zealand"], .string⟩
    let later : Condition := ⟨.greater, "now", [.string "2024-12-31"], .date⟩
    let half : Strategy := ⟨none, some 500000, ["company"], some (.string "half"), [home]⟩
    let rest : Strategy := ⟨none, none, [], some (.string "rest"), [later]⟩
    let setting : Setting := ⟨fun _ _ => 600000, ⟨"2025-01-01", "2025-01-01T00:00:00Z"⟩⟩
    let fred := ((Attributes.empty.set "company" "acme").set Attributes.country "new_zealand").set
      Attributes.userKey "fred"
    let wilma := (fred.set Attributes.userKey "wilma").set "Now" "1999-12-31"
    AgreeFor [half, rest] fred wilma ∧
      (apply setting [half, rest] "feature" fred).choice.map Choice.index = some 1 ∧
      apply setting [half, rest] "feature" fred = apply setting [half, rest] "feature" wilma := by
  intro home later half rest setting fred wilma
  have hcases : ∀ s ∈ [half, rest], s = half ∨ s = rest := by simp
  have hagree : AgreeFor [half, rest] fred wilma := by
    constructor
    · intro s hs c hc hclock
      rcases hcases s hs with rfl | rfl
      · rw [List.mem_singleton.mp hc]
        decide +kernel
      · rw [List.mem_singleton.mp hc] at hclock
        exact absurd hclock (by decide)
    · intro s hs hshare name hname
      rcases hcases s hs with rfl | rfl
      · rw [List.mem_singleton.mp hname]
        decide +kernel
      · exact absurd rfl hshare
    · rintro ⟨s, hs, hshare, hnone⟩
      rcases hcases s hs with rfl | rfl
      · exact absurd hnone (List.cons_ne_nil _ _)
      · exact absurd rfl hshare
  exact ⟨hagree, by decide +kernel, (unrelated_attributes_ignored setting).1 _ _ _ _ hagree⟩

end Rollout

end FeatureFlags
