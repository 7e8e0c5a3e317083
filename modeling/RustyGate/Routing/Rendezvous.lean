/-
Where a prefix without a history is placed (`rendezvous_provider` in
`src/routing/strategy.rs`).

The choice among providers with distinct names is the one that beats every other
(`rendezvousProvider_eq_some_iff`).  That does not depend on their order, and a provider that
beats all the others still does when some of these are gone.  The hash may be any function:
where it gives two providers the same score, the names decide.
-/
import RustyGate.Routing.AffinityOrder
import Mathlib.Data.String.Basic

namespace RustyGate

/-! ## The greatest element of a list -/

section MaxBy

variable {α : Type}

/-- `a` is no better than `m`. -/
def Beats (greater : α → α → Bool) (m a : α) : Prop := a = m ∨ greater m a = true

variable {greater : α → α → Bool} {l : List α}

theorem Beats.trans (htrans : ∀ a b c, greater a b = true → greater b c = true → greater a c = true)
    {a b c : α} (hab : Beats greater a b) (hbc : Beats greater b c) : Beats greater a c := by
  rcases hab with rfl | hab
  · exact hbc
  rcases hbc with rfl | hbc
  · exact .inr hab
  · exact .inr (htrans _ _ _ hab hbc)

variable (htotal : ∀ a ∈ l, ∀ b ∈ l, a ≠ b → greater a b = true ∨ greater b a = true)

include htotal

/-- Of two elements the one that stays is at least as good as either. -/
theorem beats_better {a b : α} (ha : a ∈ l) (hb : b ∈ l) :
    Beats greater (if greater a b then a else b) a ∧
      Beats greater (if greater a b then a else b) b := by
  by_cases hgreater : greater a b = true
  · rw [if_pos hgreater]
    exact ⟨.inl rfl, .inr hgreater⟩
  · rw [if_neg hgreater]
    refine ⟨?_, .inl rfl⟩
    by_cases heq : a = b
    · exact .inl heq
    · exact .inr ((htotal a ha b hb heq).resolve_left hgreater)

variable (htrans : ∀ a b c, greater a b = true → greater b c = true → greater a c = true)

include htrans

theorem foldl_beats {first : α} {rest : List α} (hfirst : first ∈ l) (hrest : rest ⊆ l) :
    ∀ a ∈ first :: rest,
      Beats greater
        (rest.foldl (fun best next => if greater best next then best else next) first) a := by
  induction rest generalizing first with
  | nil =>
      intro a ha
      exact .inl (List.mem_singleton.mp ha)
  | cons next rest ih =>
      obtain ⟨hnext, hlater⟩ := List.cons_subset.mp hrest
      have hstays : (if greater first next then first else next) ∈ l := by
        split
        · exact hfirst
        · exact hnext
      obtain ⟨hbeatsFirst, hbeatsNext⟩ := beats_better htotal hfirst hnext
      have hwinner := ih hstays hlater
      intro a ha
      rw [List.foldl_cons]
      rcases List.mem_cons.mp ha with rfl | ha
      · exact Beats.trans htrans (hwinner _ List.mem_cons_self) hbeatsFirst
      rcases List.mem_cons.mp ha with rfl | ha
      · exact Beats.trans htrans (hwinner _ List.mem_cons_self) hbeatsNext
      · exact hwinner a (List.mem_cons_of_mem _ ha)

/-- In a list on which the order is total, the choice is the element that beats all. -/
theorem maxBy_eq_some_iff
    (hasymm : ∀ a b, greater a b = true → greater b a = true → False) {m : α} :
    maxBy greater l = some m ↔ m ∈ l ∧ ∀ a ∈ l, Beats greater m a := by
  have hspec : ∀ m', maxBy greater l = some m' → m' ∈ l ∧ ∀ a ∈ l, Beats greater m' a := by
    intro m' hm'
    refine ⟨maxBy_mem hm', ?_⟩
    cases l with
    | nil => exact fun a ha => nomatch ha
    | cons first rest =>
        obtain rfl := Option.some.inj hm'
        exact foldl_beats htotal htrans List.mem_cons_self (List.subset_cons_self first rest)
  refine ⟨hspec m, fun ⟨hmem, hbeats⟩ => ?_⟩
  cases hmax : maxBy greater l with
  | none =>
      cases l with
      | nil => cases hmem
      | cons first rest => cases hmax
  | some m' =>
      obtain ⟨hmem', hbeats'⟩ := hspec m' hmax
      rcases hbeats m' hmem' with heq | hgreater
      · rw [heq]
      rcases hbeats' m hmem with heq | hgreater'
      · rw [heq]
      · exact (hasymm _ _ hgreater hgreater').elim

end MaxBy

/-! ## Providers with distinct names -/

section Placement

variable {sha256 : String → BitVec 256} {fingerprint : String}

theorem rendezvousGreater_iff {left right : ProviderEntry} :
    rendezvousGreater sha256 fingerprint left right = true ↔
      rendezvousScore sha256 fingerprint right.name <
          rendezvousScore sha256 fingerprint left.name ∨
        rendezvousScore sha256 fingerprint left.name =
          rendezvousScore sha256 fingerprint right.name ∧ left.name < right.name := by
  unfold rendezvousGreater
  simp only
  split
  · rename_i hne
    simp [hne]
  · rename_i heq
    simp [not_not.mp heq]

theorem rendezvousGreater_trans {a b c : ProviderEntry}
    (hab : rendezvousGreater sha256 fingerprint a b = true)
    (hbc : rendezvousGreater sha256 fingerprint b c = true) :
    rendezvousGreater sha256 fingerprint a c = true := by
  rw [rendezvousGreater_iff] at hab hbc ⊢
  rcases hab with hab | ⟨habScore, habName⟩
  · rcases hbc with hbc | ⟨hbcScore, -⟩
    · exact .inl (by omega)
    · exact .inl (by omega)
  · rcases hbc with hbc | ⟨hbcScore, hbcName⟩
    · exact .inl (by omega)
    · exact .inr ⟨by omega, lt_trans habName hbcName⟩

theorem rendezvousGreater_asymm {a b : ProviderEntry}
    (hab : rendezvousGreater sha256 fingerprint a b = true)
    (hba : rendezvousGreater sha256 fingerprint b a = true) : False := by
  rw [rendezvousGreater_iff] at hab hba
  rcases hab with hab | ⟨habScore, habName⟩
  · rcases hba with hba | ⟨hbaScore, -⟩ <;> omega
  · rcases hba with hba | ⟨-, hbaName⟩
    · omega
    · exact lt_asymm habName hbaName

/-- The score and the name settle the order of two names. -/
theorem rendezvousGreater_total {a b : ProviderEntry} (h : a.name ≠ b.name) :
    rendezvousGreater sha256 fingerprint a b = true ∨
      rendezvousGreater sha256 fingerprint b a = true := by
  rw [rendezvousGreater_iff, rendezvousGreater_iff]
  rcases Nat.lt_trichotomy (rendezvousScore sha256 fingerprint a.name)
    (rendezvousScore sha256 fingerprint b.name) with hscore | hscore | hscore
  · exact .inr (.inl hscore)
  · rcases lt_or_gt_of_ne h with hname | hname
    · exact .inl (.inr ⟨hscore, hname⟩)
    · exact .inr (.inr ⟨hscore.symm, hname⟩)
  · exact .inl (.inl hscore)

variable {providers : List ProviderEntry} {chosen : ProviderEntry}

theorem exists_rendezvousProvider (h : providers ≠ []) :
    ∃ chosen ∈ providers, rendezvousProvider sha256 fingerprint providers = some chosen := by
  cases hchosen : rendezvousProvider sha256 fingerprint providers with
  | none =>
      cases providers with
      | nil => exact absurd rfl h
      | cons first rest => cases hchosen
  | some chosen => exact ⟨chosen, maxBy_mem hchosen, rfl⟩

/-- Where the circuit of `opened` is open now and the others are as before. -/
def OpensOnly (opened : String) (before after : Option ResilienceRegistry)
    (providers : List ProviderEntry) : Prop :=
  ∀ entry ∈ providers,
    isOpenCircuit after entry = (isOpenCircuit before entry || entry.name == opened)

variable (hnames : (providers.map (·.name)).Nodup)

include hnames

theorem eq_of_name_eq {a b : ProviderEntry} (ha : a ∈ providers) (hb : b ∈ providers)
    (h : a.name = b.name) : a = b :=
  List.inj_on_of_nodup_map hnames ha hb h

/-- Among some of the providers, repeated or not, the choice is the one that beats all. -/
theorem rendezvousProvider_eq_some_iff {candidates : List ProviderEntry}
    (hcandidates : candidates ⊆ providers) :
    rendezvousProvider sha256 fingerprint candidates = some chosen ↔
      chosen ∈ candidates ∧
        ∀ a ∈ candidates, Beats (rendezvousGreater sha256 fingerprint) chosen a := by
  apply maxBy_eq_some_iff
  · intro a ha b hb hne
    apply rendezvousGreater_total
    exact fun hname => hne (eq_of_name_eq hnames (hcandidates ha) (hcandidates hb) hname)
  · exact fun _ _ _ => rendezvousGreater_trans
  · exact fun _ _ => rendezvousGreater_asymm

/-- A choice that is still there is still the choice. -/
theorem rendezvousProvider_subset {candidates : List ProviderEntry}
    (hcandidates : candidates ⊆ providers)
    (hchosen : rendezvousProvider sha256 fingerprint providers = some chosen)
    (hmem : chosen ∈ candidates) :
    rendezvousProvider sha256 fingerprint candidates = some chosen := by
  obtain ⟨-, hbeats⟩ :=
    (rendezvousProvider_eq_some_iff hnames (List.Subset.refl providers)).mp hchosen
  rw [rendezvousProvider_eq_some_iff hnames hcandidates]
  exact ⟨hmem, fun a ha => hbeats a (hcandidates ha)⟩

theorem rendezvousProvider_perm {reordered : List ProviderEntry} (hperm : reordered.Perm providers)
   :
    rendezvousProvider sha256 fingerprint reordered =
      rendezvousProvider sha256 fingerprint providers := by
  by_cases hempty : providers = []
  · subst hempty
    rw [hperm.eq_nil]
  · obtain ⟨chosen, hmem, hchosen⟩ := exists_rendezvousProvider hempty
    rw [hchosen]
    exact rendezvousProvider_subset hnames hperm.subset hchosen (hperm.mem_iff.mpr hmem)

/-- A new provider takes the prefix, or nothing changes. -/
theorem rendezvousProvider_cons {added : ProviderEntry}
    (hadded : added.name ∉ providers.map (·.name)) :
    rendezvousProvider sha256 fingerprint (added :: providers) =
        rendezvousProvider sha256 fingerprint providers ∨
      rendezvousProvider sha256 fingerprint (added :: providers) = some added := by
  have hallNames : ((added :: providers).map (·.name)).Nodup :=
    List.nodup_cons.mpr ⟨hadded, hnames⟩
  obtain ⟨chosen, hmem, hchosen⟩ := exists_rendezvousProvider (List.cons_ne_nil added providers)
  rw [hchosen]
  rcases List.mem_cons.mp hmem with rfl | hold
  · exact .inr rfl
  · exact .inl (rendezvousProvider_subset hallNames (List.subset_cons_self added providers)
      hchosen hold).symm

theorem rendezvousProvider_opensOnly {opened : String} {before after : Option ResilienceRegistry}
    (hopens : OpensOnly opened before after providers)
    (hchosen : rendezvousProvider sha256 fingerprint (healthyProviders before providers) = some
      chosen) (hname : chosen.name ≠ opened) :
    rendezvousProvider sha256 fingerprint (healthyProviders after providers) = some chosen := by
  have hhealthy : ((healthyProviders before providers).map (·.name)).Nodup :=
    hnames.sublist (List.filter_sublist.map _)
  have hmem := List.mem_filter.mp (maxBy_mem hchosen)
  apply rendezvousProvider_subset hhealthy _ hchosen
  · apply List.mem_filter.mpr
    refine ⟨hmem.1, ?_⟩
    have hclosed : isOpenCircuit before chosen = false := by simpa using hmem.2
    simp [hopens chosen hmem.1, hclosed, hname]
  · intro entry hentry
    obtain ⟨hentry, hclosed⟩ := List.mem_filter.mp hentry
    apply List.mem_filter.mpr
    refine ⟨hentry, ?_⟩
    rw [hopens entry hentry] at hclosed
    simp only [Bool.not_or, Bool.and_eq_true] at hclosed
    exact hclosed.1

end Placement

/-- Among providers with distinct names there is a choice, the same in any order.  It stays
when others leave, and a provider that joins leaves it or takes it.  So a circuit that opens
moves only the prefixes of its own provider. -/
theorem rendezvousProvider_stable (sha256 : String → BitVec 256) (fingerprint : String)
    {providers : List ProviderEntry} (hnames : (providers.map (·.name)).Nodup) :
    (providers ≠ [] → ∃ chosen ∈ providers,
        rendezvousProvider sha256 fingerprint providers = some chosen) ∧
      (∀ reordered, reordered.Perm providers →
        rendezvousProvider sha256 fingerprint reordered =
          rendezvousProvider sha256 fingerprint providers) ∧
      (∀ chosen remaining, rendezvousProvider sha256 fingerprint providers = some chosen →
        remaining ⊆ providers → chosen ∈ remaining →
          rendezvousProvider sha256 fingerprint remaining = some chosen) ∧
      (∀ added larger, added.name ∉ providers.map (·.name) → larger.Perm (added :: providers) →
        rendezvousProvider sha256 fingerprint larger =
            rendezvousProvider sha256 fingerprint providers ∨
          rendezvousProvider sha256 fingerprint larger = some added) ∧
      ∀ opened before after chosen, OpensOnly opened before after providers →
        rendezvousProvider sha256 fingerprint (healthyProviders before providers) = some chosen →
          chosen.name ≠ opened →
            rendezvousProvider sha256 fingerprint (healthyProviders after providers) =
              some chosen := by
  refine ⟨exists_rendezvousProvider, fun reordered hperm => rendezvousProvider_perm hnames hperm,
    fun chosen remaining hchosen hsub hmem => rendezvousProvider_subset hnames hsub hchosen hmem,
    ?_, fun opened before after chosen hopens hchosen hname =>
      rendezvousProvider_opensOnly hnames hopens hchosen hname⟩
  intro added larger hadded hperm
  have hallNames : ((added :: providers).map (·.name)).Nodup :=
    List.nodup_cons.mpr ⟨hadded, hnames⟩
  rw [rendezvousProvider_perm hallNames hperm]
  exact rendezvousProvider_cons hnames hadded

/-- Two providers with the same score: the smaller name is chosen in either order. -/
theorem rendezvousProvider_stable_alpha :
    rendezvousProvider (fun _ => 0) "prefix" [⟨"alpha", "m", {}, 1⟩, ⟨"beta", "m", {}, 1⟩] =
        some ⟨"alpha", "m", {}, 1⟩ ∧
      rendezvousProvider (fun _ => 0) "prefix" [⟨"beta", "m", {}, 1⟩, ⟨"alpha", "m", {}, 1⟩] =
        rendezvousProvider (fun _ => 0) "prefix"
          [⟨"alpha", "m", {}, 1⟩, ⟨"beta", "m", {}, 1⟩] := by
  have hnames : ([⟨"alpha", "m", {}, 1⟩, ⟨"beta", "m", {}, 1⟩] : List ProviderEntry).map (·.name)
      |>.Nodup := by decide
  exact ⟨by decide +kernel,
    (rendezvousProvider_stable (fun _ => 0) "prefix" hnames).2.1 _ (List.Perm.swap _ _ _)⟩

end RustyGate
