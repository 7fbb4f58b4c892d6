import UpnpAv.Pipeline.Catalog
import UpnpAv.Proofs.Act

/-!
# Choosing from a catalog

The entry that is chosen is the first one that fits the wanted name, and every
entry fits where no name is given.  Its pipeline is created once, made ready, and
only then asked for its media types.
-/

namespace UpnpAv

open Pipeline (Exchange Traced)

variable {P : Type}

/-- Whether an entry is what a name stands for; without a name every entry is. -/
def CatalogEntry.Fits (name : Option String) (entry : CatalogEntry P) : Prop :=
  forall wanted, name = some wanted -> entry.name = wanted

/-- An entry whose pipeline records what it is asked. -/
def CatalogEntry.traced (entry : CatalogEntry P) : CatalogEntry (Traced P) :=
  ⟨entry.name, entry.description, .ofPipeline entry.fresh⟩

namespace Catalog

/-!
# The entry that is chosen
-/

/-- The first entry of a catalog that fits a name, with its place. -/
structure Chosen (catalog : Catalog P) (name : Option String) (place : Nat)
    (entry : CatalogEntry P) : Prop where
  listed : catalog.entries[place]? = some entry
  fits : entry.Fits name
  first : forall earlier other, earlier < place -> catalog.entries[earlier]? = some other ->
    ¬ other.Fits name

theorem fits_none (entry : CatalogEntry P) : entry.Fits none := by
  intro wanted hwanted
  cases hwanted

theorem fits_some {entry : CatalogEntry P} {wanted : String} :
    entry.Fits (some wanted) <-> entry.name = wanted := by
  constructor
  · intro hfits
    exact hfits wanted rfl
  · rintro hname _ ⟨⟩
    exact hname

/-- Without a name the first entry is chosen. -/
theorem chosen_unnamed {catalog : Catalog P} {place : Nat} {entry : CatalogEntry P} :
    catalog.Chosen none place entry <-> place = 0 ∧ catalog.entries.head? = some entry := by
  rw [List.head?_eq_getElem?]
  constructor
  · intro hchosen
    have hplace : place = 0 := by
      apply Nat.eq_zero_of_not_pos
      intro hlate
      have hbound := (List.getElem?_eq_some_iff.mp hchosen.listed).1
      exact hchosen.first 0 _ hlate (List.getElem?_eq_getElem (Nat.zero_lt_of_lt hbound))
        (fits_none _)
    subst hplace
    exact ⟨rfl, hchosen.listed⟩
  · rintro ⟨rfl, hlisted⟩
    exact ⟨hlisted, fits_none entry, fun earlier _ hearlier => absurd hearlier (by simp)⟩

/-- With a name the first entry is chosen that bears it. -/
theorem chosen_named {catalog : Catalog P} {wanted : String} {place : Nat}
    {entry : CatalogEntry P} :
    catalog.Chosen (some wanted) place entry <->
      catalog.entries.zipIdx.find? (fun (entry, _) => entry.name == wanted) =
        some (entry, place) := by
  rw [List.find?_eq_some_iff_getElem]
  constructor
  · intro hchosen
    rcases List.getElem?_eq_some_iff.mp hchosen.listed with ⟨hbound, hentry⟩
    refine ⟨beq_iff_eq.mpr (fits_some.mp hchosen.fits), place, ?_, ?_, ?_⟩
    · rwa [List.length_zipIdx]
    · rw [List.getElem_zipIdx, hentry, Nat.zero_add]
    · intro earlier hearlier
      have hother := hchosen.first earlier _ hearlier
        (List.getElem?_eq_getElem (Nat.lt_trans hearlier hbound))
      rw [fits_some] at hother
      simpa using hother
  · rintro ⟨hname, found, hbound, hfound, hfirst⟩
    rw [List.getElem_zipIdx, Nat.zero_add, Prod.mk.injEq] at hfound
    rcases hfound with ⟨hentry, rfl⟩
    refine ⟨List.getElem?_eq_some_iff.mpr ⟨_, hentry⟩, fits_some.mpr (beq_iff_eq.mp hname), ?_⟩
    intro earlier other hearlier hother
    rcases List.getElem?_eq_some_iff.mp hother with ⟨_, rfl⟩
    rw [fits_some]
    simpa using hfirst earlier hearlier

/-- Looking for a name finds the entry that is to be chosen. -/
theorem find_eq_ok {catalog : Catalog P} {name : Option String} {place : Nat}
    {entry : CatalogEntry P} :
    catalog.find name = .ok (place, entry) <-> catalog.Chosen name place entry := by
  cases name with
  | none =>
      rw [chosen_unnamed]
      rcases catalog with ⟨entries⟩
      cases entries with
      | nil =>
          simp [find]
      | cons head rest =>
          simp [find, eq_comm]
  | some wanted =>
      rw [chosen_named, find]
      cases catalog.entries.zipIdx.find? (fun (entry, _) => entry.name == wanted) with
      | none =>
          simp
      | some found =>
          simp [Prod.ext_iff, and_comm]

theorem find_eq_noOutput {catalog : Catalog P} {name : Option String} :
    catalog.find name = .error .noOutput <-> name = none ∧ catalog.entries = [] := by
  rcases catalog with ⟨entries⟩
  cases name with
  | none =>
      cases entries with
      | nil =>
          exact ⟨fun _ => ⟨rfl, rfl⟩, fun _ => rfl⟩
      | cons head rest =>
          constructor
          · intro hfind
            cases hfind
          · rintro ⟨_, hnone⟩
            cases hnone
  | some wanted =>
      constructor
      · intro hfind
        rw [find] at hfind
        split at hfind <;> cases hfind
      · rintro ⟨hname, _⟩
        cases hname

theorem find_eq_unknownOutput {catalog : Catalog P} {name : Option String} {wanted : String} :
    catalog.find name = .error (.unknownOutput wanted) <->
      name = some wanted ∧ forall entry, entry ∈ catalog.entries -> entry.name ≠ wanted := by
  rcases catalog with ⟨entries⟩
  cases name with
  | none =>
      constructor
      · intro hfind
        cases entries <;> cases hfind
      · rintro ⟨hname, _⟩
        cases hname
  | some given =>
      have hnone : (entries.zipIdx.find? (fun (entry, _) => entry.name == given)) = none <->
          forall entry, entry ∈ entries -> entry.name ≠ given := by
        rw [List.find?_eq_none]
        constructor
        · intro hnone entry hentry
          rcases List.getElem?_of_mem hentry with ⟨place, hplace⟩
          simpa using hnone (entry, place) (List.mem_zipIdx_iff_getElem?.mpr hplace)
        · rintro hnames ⟨entry, place⟩ hmem
          have hentry := List.mem_of_getElem? (List.mem_zipIdx_iff_getElem?.mp hmem)
          simpa using hnames entry hentry
      rw [find]
      cases hfound : entries.zipIdx.find? (fun (entry, _) => entry.name == given) with
      | none =>
          constructor
          · rintro ⟨⟩
            exact ⟨rfl, hnone.mp hfound⟩
          · rintro ⟨⟨⟩, _⟩
            rfl
      | some found =>
          constructor
          · intro hfind
            cases hfind
          · rintro ⟨⟨⟩, hnames⟩
            rw [hnone.mpr hnames] at hfound
            cases hfound

theorem entries_traced (catalog : Catalog P) :
    catalog.traced.entries = catalog.entries.map CatalogEntry.traced :=
  rfl

theorem chosen_traced {catalog : Catalog P} {name : Option String} {place : Nat}
    {entry : CatalogEntry (Traced P)} :
    catalog.traced.Chosen name place entry <->
      exists original, entry = original.traced ∧ catalog.Chosen name place original := by
  constructor
  · intro hchosen
    have hlisted := hchosen.listed
    rw [entries_traced, List.getElem?_map, Option.map_eq_some_iff] at hlisted
    rcases hlisted with ⟨original, horiginal, rfl⟩
    refine ⟨original, rfl, horiginal, hchosen.fits, ?_⟩
    intro earlier other hearlier hother
    refine hchosen.first earlier other.traced hearlier ?_
    rw [entries_traced, List.getElem?_map, hother]
    rfl
  · rintro ⟨original, rfl, hchosen⟩
    refine ⟨?_, hchosen.fits, ?_⟩
    · rw [entries_traced, List.getElem?_map, hchosen.listed]
      rfl
    · intro earlier other hearlier hother
      rw [entries_traced, List.getElem?_map, Option.map_eq_some_iff] at hother
      rcases hother with ⟨replaced, hreplaced, rfl⟩
      exact hchosen.first earlier replaced hearlier hreplaced

/-- Replacing what other entries create does not matter for what is chosen. -/
theorem Chosen.unaffected {catalog other : Catalog P} {name : Option String} {place : Nat}
    {entry : CatalogEntry P} (hchosen : catalog.Chosen name place entry)
    (hnames : other.entries.map CatalogEntry.name = catalog.entries.map CatalogEntry.name)
    (hplace : other.entries[place]? = some entry) : other.Chosen name place entry := by
  refine ⟨hplace, hchosen.fits, ?_⟩
  intro earlier replaced hearlier hreplaced hfits
  have hsame : catalog.entries[earlier]?.map CatalogEntry.name = some replaced.name := by
    rw [← List.getElem?_map, ← hnames, List.getElem?_map, hreplaced]
    rfl
  rcases Option.map_eq_some_iff.mp hsame with ⟨original, horiginal, hname⟩
  refine hchosen.first earlier original hearlier horiginal ?_
  intro wanted hwanted
  rw [hname]
  exact hfits wanted hwanted

/-!
# What is made of it
-/

variable [Pipeline P]

/--
The pipeline of an entry is created and made ready.  Only if it does not fail at
that it is asked for its media types, and the choice is this pipeline with them.
-/
def Makes (place : Nat) (entry : CatalogEntry P) (choice : Choice (Traced P)) : Prop :=
  let prepared : Outcome P Failure Unit := Pipeline.perform .prepare entry.fresh
  let asked := Pipeline.mediaTypes prepared.state
  let pipeline : Traced P := ⟨asked.state, [.command .prepare true, .mediaTypes]⟩
  (forall failure, prepared.result = .error failure ->
    choice.result = .error (.pipeline failure) ∧
      choice.created = [(place, ⟨prepared.state, [.command .prepare false]⟩)]) ∧
  (prepared.result = .ok () ->
    exists types,
      asked.result = .ok types ∧
        choice.result = .ok ⟨entry.name, entry.description, pipeline, types⟩ ∧
        choice.created = [(place, pipeline)])

/-- The pipeline of an entry is on record even when it cannot be made ready. -/
theorem create_error {entry : CatalogEntry P} {failure : Failure}
    (hready : (ready entry.fresh).result = .error failure) (place : Nat)
    (created : List (Nat × P)) :
    create place entry created =
      ⟨.error (.pipeline failure), created ++ [(place, (ready entry.fresh).state)],
        (ready entry.fresh).lines⟩ := by
  apply Act.bind_apply_error
  simp only [CatalogEntry.making, Act.mapError, hready]
  rfl

theorem create_ok {entry : CatalogEntry P} {types : StringSet}
    (hready : (ready entry.fresh).result = .ok types) (place : Nat)
    (created : List (Nat × P)) :
    create place entry created =
      ⟨.ok ⟨entry.name, entry.description, (ready entry.fresh).state, types⟩,
        created ++ [(place, (ready entry.fresh).state)],
        (ready entry.fresh).lines ++
          [.info s!"Using output '{entry.name}' ({types.size} MIME types)"]⟩ := by
  have hmade : entry.making place (ready.mapError Player.Error.pipeline) created =
      ⟨.ok ((ready entry.fresh).state, types),
        created ++ [(place, (ready entry.fresh).state)], (ready entry.fresh).lines⟩ := by
    simp only [CatalogEntry.making, Act.mapError, hready]
    rfl
  rw [create, Act.bind_apply_ok hmade]
  rfl

/-- The first exchange of a pipeline is that it is made ready. -/
theorem prepare_traced (entry : CatalogEntry P) :
    let prepared : Outcome P Failure Unit := Pipeline.perform .prepare entry.fresh
    let traced : Outcome (Traced P) Failure Unit :=
      Pipeline.perform .prepare entry.traced.fresh
    traced.result = prepared.result ∧
      traced.state = ⟨prepared.state, [.command .prepare prepared.result.isOk]⟩ :=
  ⟨rfl, rfl⟩

theorem makes_create (place : Nat) (entry : CatalogEntry P) :
    Makes place entry (create place entry.traced []) := by
  rcases prepare_traced entry with ⟨hresult, hstate⟩
  constructor
  · intro failure hfailure
    rw [hfailure] at hresult hstate
    have hready : (ready entry.traced.fresh).result = .error failure := by
      rw [ready, Act.bind_result, hresult]
    have hleft : (ready entry.traced.fresh).state =
        ⟨(Pipeline.perform .prepare entry.fresh : Outcome P Failure Unit).state,
          [.command .prepare false]⟩ := by
      rw [ready, Act.bind_state, hresult, hstate]
      rfl
    rw [create_error hready, hleft]
    exact ⟨rfl, rfl⟩
  · intro hok
    rw [hok] at hresult hstate
    let prepared : Outcome P Failure Unit := Pipeline.perform .prepare entry.fresh
    rcases Act.exists_ok Pipeline.mediaTypes prepared.state with ⟨types, hasked⟩
    have hready : (ready entry.traced.fresh).result = .ok types := by
      rw [ready, Act.bind_result, hresult]
      show ((Pipeline.mediaTypes _).result.mapError Empty.elim) = _
      rw [hstate]
      exact congrArg (Except.mapError Empty.elim) hasked
    have hleft : (ready entry.traced.fresh).state =
        ⟨(Pipeline.mediaTypes prepared.state).state, [.command .prepare true, .mediaTypes]⟩ := by
      rw [ready, Act.bind_state, hresult]
      show (Pipeline.mediaTypes _).state = _
      rw [hstate]
      rfl
    rw [create_ok hready, hleft]
    exact ⟨types, hasked, rfl, rfl⟩

theorem choose_invalid {settings : OutputSettings} {flaw : OutputSettings.Flaw}
    (hinvalid : settings.validate = .error flaw) (catalog : Catalog P) (name : Option String)
    (created : List (Nat × P)) :
    catalog.choose name settings created = ⟨.error (.settings flaw), created, []⟩ := by
  rw [choose, hinvalid]
  rfl

theorem choose_missing {settings : OutputSettings} (hvalid : settings.validate = .ok ())
    {catalog : Catalog P} {name : Option String} {e : Player.Error}
    (hfind : catalog.find name = .error e) (created : List (Nat × P)) :
    catalog.choose name settings created = ⟨.error e, created, []⟩ := by
  rw [choose, hvalid, hfind]
  rfl

theorem choose_chosen {settings : OutputSettings} (hvalid : settings.validate = .ok ())
    {catalog : Catalog P} {name : Option String} {place : Nat} {entry : CatalogEntry P}
    (hchosen : catalog.Chosen name place entry) (created : List (Nat × P)) :
    catalog.choose name settings created = create place entry created := by
  rw [choose, hvalid, find_eq_ok.mpr hchosen]
  rfl

/-- A choice that does not fail because of a pipeline fails because no entry was found. -/
theorem select_eq_error {settings : OutputSettings} (hvalid : settings.validate = .ok ())
    {catalog : Catalog P} {name : Option String} {e : Player.Error}
    (hcause : forall failure, e ≠ .pipeline failure) :
    (catalog.select name settings).result = .error e <-> catalog.find name = .error e := by
  rw [select]
  cases hfind : catalog.find name with
  | error cause =>
      rw [choose_missing hvalid hfind, Except.error.injEq, Except.error.injEq]
  | ok found =>
      rcases found with ⟨place, entry⟩
      rw [choose_chosen hvalid (find_eq_ok.mp hfind)]
      constructor
      · intro hresult
        cases hready : (ready entry.fresh).result with
        | error failure =>
            rw [create_error hready] at hresult
            exact absurd (Except.error.inj hresult).symm (hcause failure)
        | ok types =>
            rw [create_ok hready] at hresult
            cases hresult
      · intro hfound
        cases hfound

/-- Creating looks at nothing that was created before. -/
theorem create_eq (place : Nat) (entry : CatalogEntry P) (created : List (Nat × P)) :
    create place entry created =
      ⟨(create place entry []).result, created ++ (create place entry []).state,
        (create place entry []).lines⟩ := by
  cases hready : (ready entry.fresh).result with
  | error failure =>
      rw [create_error hready, create_error hready]
      rfl
  | ok types =>
      rw [create_ok hready, create_ok hready]
      rfl

/-- A choice keeps what was created before, and is the same whatever that was. -/
theorem choose_eq (catalog : Catalog P) (name : Option String) (settings : OutputSettings)
    (created : List (Nat × P)) :
    let choice := catalog.select name settings
    catalog.choose name settings created =
      ⟨choice.result, created ++ choice.created, choice.lines⟩ := by
  intro choice
  cases hvalid : settings.validate with
  | error flaw =>
      rw [show choice = _ from choose_invalid hvalid catalog name [],
        choose_invalid hvalid catalog name created]
      simp [Choice.created]
  | ok done =>
      cases hfind : catalog.find name with
      | error e =>
          rw [show choice = _ from choose_missing hvalid hfind [],
            choose_missing hvalid hfind created]
          simp [Choice.created]
      | ok found =>
          rcases found with ⟨place, entry⟩
          have hchosen := find_eq_ok.mp hfind
          rw [show choice = _ from choose_chosen hvalid hchosen [],
            choose_chosen hvalid hchosen created]
          exact create_eq place entry created

section Traced

variable {catalog : Catalog P} {name : Option String} {settings : OutputSettings}

theorem select_eq_noOutput (hvalid : settings.validate = .ok ()) :
    (catalog.traced.select name settings).result = .error .noOutput <->
      name = none ∧ catalog.entries = [] := by
  rw [select_eq_error hvalid (by simp), find_eq_noOutput, entries_traced, List.map_eq_nil_iff]

theorem select_eq_unknownOutput (hvalid : settings.validate = .ok ()) {wanted : String} :
    (catalog.traced.select name settings).result = .error (.unknownOutput wanted) <->
      name = some wanted ∧ forall entry, entry ∈ catalog.entries -> entry.name ≠ wanted := by
  rw [select_eq_error hvalid (by simp), find_eq_unknownOutput, entries_traced,
    List.forall_mem_map]
  rfl

theorem select_traced (hvalid : settings.validate = .ok ()) {place : Nat}
    {entry : CatalogEntry P} (hchosen : catalog.Chosen name place entry) :
    catalog.traced.select name settings = create place entry.traced [] :=
  choose_chosen hvalid (chosen_traced.mpr ⟨entry, rfl, hchosen⟩) []

/-- Nothing is created where no entry is to be chosen. -/
theorem created_of_unchosen (hvalid : settings.validate = .ok ())
    (hnone : forall place entry, ¬ catalog.Chosen name place entry) :
    (catalog.traced.select name settings).created = [] := by
  cases hfind : catalog.traced.find name with
  | error e =>
      rw [select, choose_missing hvalid hfind]
      rfl
  | ok found =>
      rcases found with ⟨place, entry⟩
      rcases chosen_traced.mp (find_eq_ok.mp hfind) with ⟨original, _, hchosen⟩
      exact absurd hchosen (hnone place original)

end Traced

/-- Whatever is selected has been made ready and asked for its media types, and nothing else. -/
theorem selection_trace {catalog : Catalog P} {name : Option String}
    {settings : OutputSettings} {selection : Selection (Traced P)}
    (hselected : (catalog.traced.select name settings).result = .ok selection) :
    selection.pipeline.trace = [.command .prepare true, .mediaTypes] := by
  rw [select] at hselected
  cases hvalid : settings.validate with
  | error flaw =>
      rw [choose_invalid hvalid] at hselected
      cases hselected
  | ok done =>
      cases hfind : catalog.traced.find name with
      | error e =>
          rw [choose_missing hvalid hfind] at hselected
          cases hselected
      | ok found =>
          rcases found with ⟨place, entry⟩
          have hchosen := find_eq_ok.mp hfind
          rcases chosen_traced.mp hchosen with ⟨original, rfl, _⟩
          rw [choose_chosen hvalid hchosen] at hselected
          rcases makes_create place original with ⟨hfailed, hmade⟩
          cases hprepared :
            (Pipeline.perform .prepare original.fresh : Outcome P Failure Unit).result with
          | error failure =>
              rw [(hfailed failure hprepared).1] at hselected
              cases hselected
          | ok done =>
              rcases hmade hprepared with ⟨types, _, hresult, _⟩
              rw [hresult] at hselected
              cases hselected
              rfl

end Catalog
end UpnpAv
