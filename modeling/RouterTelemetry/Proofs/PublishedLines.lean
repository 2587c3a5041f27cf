import RouterTelemetry.Proofs.ExpositionLines
import RouterTelemetry.Proofs.ProjectedKeys
import RouterTelemetry.Proofs.SeriesIdentity

/-!
# Published lines

The registry tells the series of a family apart by their label values in a row, while a
sample set tells its samples apart by each label.  The only family with more than one label
is that of the received channels.  A published projection therefore has one line for each
of its samples exactly when no two channels have the same name and address in a row.
-/

namespace RouterTelemetry

/-! ## Series of samples -/

namespace SampleKey

/-- A label of a key with distinct labels has the value beside it. -/
theorem labelValue_of_mem {key : SampleKey} (distinct : key.labelNames.Nodup)
    {label : String × String} (member : label ∈ key.labels) :
    key.labelValue label.1 = .ok label.2 := by
  unfold labelValue
  cases found : key.labels.find? (·.1 == label.1) with
  | none => simpa using List.find?_eq_none.mp found label member
  | some other =>
      have named : other.1 = label.1 := by simpa using List.find?_some found
      rw [List.inj_on_of_nodup_map distinct (List.mem_of_find?_eq_some found) member named]

/-- Distinct labels have the values that are listed with them. -/
theorem mapM_labelValue {key : SampleKey} (distinct : key.labelNames.Nodup) :
    key.labelNames.mapM key.labelValue = .ok (key.labels.map Prod.snd) := by
  rw [labelNames, List.mapM_map]
  exact mapM_eq_ok_map fun label member => labelValue_of_mem distinct member

/-- The name with the label values in a row. -/
def row (key : SampleKey) : String × String :=
  (key.name, String.join (key.labels.map Prod.snd))

end SampleKey

/-- The line of a sample, with the labels in the order of their names. -/
def sampleLine (sample : SampleKey × Float) : String :=
  seriesLine sample.1.name (sample.1.labels.mergeSort fun one other => one.1 ≤ other.1) sample.2

/-- The series has the name, the labels and the value of the sample. -/
structure Series.Shows (one : Series) (sample : SampleKey × Float) : Prop where
  name : one.family.fullName = sample.1.name
  labels : one.family.labels = sample.1.labelNames
  labelValues : one.labelValues = sample.1.labels.map Prod.snd
  value : one.value = sample.2

namespace Series

variable {one : Series} {sample : SampleKey × Float}

theorem shows_of_inTable (inTable : sample.1.InTable)
    (given : ofSample sample.1 sample.2 = .ok one) :
    one.Shows sample := by
  obtain ⟨family, member, named, labels⟩ := inTable
  have distinct : sample.1.labelNames.Nodup := labels ▸ Family.labels_nodup member
  have count : sample.1.labels.length = family.labels.length := by
    simp [← labels, SampleKey.labelNames]
  rw [ofSample_of_named member named, if_neg (not_not.mpr count), ← labels,
    SampleKey.mapM_labelValue distinct] at given
  cases given
  exact ⟨named, labels.symm, rfl, rfl⟩

/-- The line of a series is that of the sample that it shows. -/
theorem Shows.text_eq (shown : one.Shows sample) : one.text = sampleLine sample := by
  have zipped : one.family.labels.zip one.labelValues = sample.1.labels := by
    rw [shown.labels, shown.labelValues, SampleKey.labelNames]
    exact (List.zip_of_prod rfl rfl).symm
  rw [text, Series.labels, zipped, shown.name, shown.value, sampleLine]

theorem Shows.row_eq (shown : one.Shows sample) :
    sample.1.row = (metricSpace ++ "_" ++ one.tag.1, one.tag.2) := by
  rw [SampleKey.row, ← shown.name, ← shown.labelValues]
  rfl

end Series

theorem map_text_of_shows {series : List Series} {samples : List (SampleKey × Float)}
    (shown : List.Forall₂ (fun sample one => Series.Shows one sample) samples series) :
    series.map Series.text = samples.map sampleLine := by
  induction shown with
  | nil => rfl
  | cons first _ ih => rw [List.map_cons, List.map_cons, first.text_eq, ih]

/-- Series are told apart as the row keys of their samples are. -/
theorem tags_nodup_iff_of_shows {series : List Series} {samples : List (SampleKey × Float)}
    (shown : List.Forall₂ (fun sample one => Series.Shows one sample) samples series) :
    (series.map Series.tag).Nodup ↔ (samples.map fun sample => sample.1.row).Nodup := by
  have spaced : (fun tag : String × String => (metricSpace ++ "_" ++ tag.1, tag.2)).Injective := by
    rintro ⟨name, row⟩ ⟨name', row'⟩ same
    obtain ⟨names, rows⟩ := Prod.mk.inj same
    exact Prod.ext (String.append_right_inj _ |>.mp names) rows
  have rows : (samples.map fun sample => sample.1.row) =
      (series.map Series.tag).map fun tag => (metricSpace ++ "_" ++ tag.1, tag.2) := by
    induction shown with
    | nil => rfl
    | cons first _ ih => rw [List.map_cons, ih, first.row_eq]; rfl
  rw [rows, List.nodup_map_iff spaced]

/-! ## Keys in a row -/

/-- The key of a received channel. -/
def channelKey (name address : String) : SampleKey :=
  ⟨"bbox_iptv_channel_received", [("name", name), ("address", address)]⟩

/-- No two channels of the set have the same name and address in a row. -/
def SampleSet.ChannelsApart (set : SampleSet) : Prop :=
  ∀ name address name' address',
    channelKey name address ∈ set.samples.map Prod.fst →
      channelKey name' address' ∈ set.samples.map Prod.fst →
        name ++ address = name' ++ address' → name = name' ∧ address = address'

namespace SampleKey

variable {key other : SampleKey}

/-- The keys of the received channels are the only ones with more than one label. -/
theorem InTable.shape_cases (inTable : key.InTable) :
    key.labels = [] ∨ (∃ label value, key.labels = [(label, value)]) ∨
      ∃ name address, key = channelKey name address := by
  have table : ∀ family ∈ families, family.labels.length ≤ 1 ∨
      family.shape = ("bbox_iptv_channel_received", ["name", "address"]) := by decide +kernel
  obtain ⟨family, member, named, labels⟩ := inTable
  obtain ⟨keyName, keyLabels⟩ := key
  rcases table family member with few | received
  · rw [← labels, labelNames, List.length_map] at few
    rcases Nat.le_one_iff_eq_zero_or_eq_one.mp few with none | one
    · exact .inl (List.length_eq_zero_iff.mp none)
    · obtain ⟨⟨label, value⟩, single⟩ := List.length_eq_one_iff.mp one
      exact .inr (.inl ⟨label, value, single⟩)
  · rw [Family.shape, named, ← labels] at received
    obtain ⟨rfl, names⟩ := Prod.mk.inj received
    obtain ⟨⟨_, name⟩, tail, rfl, rfl, second⟩ := List.map_eq_cons_iff.mp names
    obtain ⟨⟨_, address⟩, rest, rfl, rfl, last⟩ := List.map_eq_cons_iff.mp second
    rw [List.map_eq_nil_iff.mp last]
    exact .inr (.inr ⟨name, address, rfl⟩)

/-- Two keys of the table that are alike in a row are one key, or keys of two channels. -/
theorem eq_or_channels_of_row_eq (inTable : key.InTable) (otherInTable : other.InTable)
    (same : key.row = other.row) :
    key = other ∨ ∃ name address name' address', key = channelKey name address ∧
      other = channelKey name' address' ∧ name ++ address = name' ++ address' := by
  obtain ⟨names, rows⟩ := Prod.mk.inj same
  have labelNames_eq : key.labelNames = other.labelNames := by
    obtain ⟨family, member, named, labels⟩ := inTable
    obtain ⟨family', member', named', labels'⟩ := otherInTable
    have one : family = family' :=
      List.inj_on_of_nodup_map fullNames_nodup.of_cons member member'
        (named.trans (names.trans named'.symm))
    rw [labels, labels', one]
  obtain ⟨name, keyLabels⟩ := key
  obtain ⟨name', otherLabels⟩ := other
  obtain rfl : name = name' := names
  rcases inTable.shape_cases with empty | ⟨label, value, single⟩ | ⟨title, address, channel⟩
  · obtain rfl : keyLabels = [] := empty
    match otherLabels, labelNames_eq with
    | [], _ => exact .inl rfl
  · obtain rfl : keyLabels = [(label, value)] := single
    match otherLabels, labelNames_eq with
    | [(_, value')], rfl =>
      have values : value = value' := by simpa using rows
      exact .inl (by rw [values])
  · cases channel
    match otherLabels, labelNames_eq with
    | [(_, title'), (_, address')], rfl =>
      exact .inr ⟨title, address, title', address', rfl, rfl, by simpa using rows⟩

end SampleKey

/-- The keys of a set differ in a row exactly when no two channels are alike. -/
theorem SampleSet.rows_nodup_iff {set : SampleSet} (ordered : set.Ordered)
    (inTable : ∀ sample ∈ set.samples, sample.1.InTable) :
    (set.samples.map fun sample => sample.1.row).Nodup ↔ set.ChannelsApart := by
  have keyRows : (set.samples.map fun sample => sample.1.row) =
      (set.samples.map Prod.fst).map SampleKey.row := by
    rw [List.map_map]
    rfl
  rw [keyRows]
  constructor
  · intro distinct name address name' address' member member' same
    have keys : channelKey name address = channelKey name' address' :=
      List.inj_on_of_nodup_map distinct member member'
        (by simpa [SampleKey.row, channelKey] using same)
    simpa [channelKey] using keys
  · intro apart
    refine List.Nodup.map_on ?_ ordered.keys_nodup
    intro key member other otherMember same
    have keyInTable : ∀ key ∈ set.samples.map Prod.fst, key.InTable :=
      List.forall_mem_map.mpr inTable
    rcases SampleKey.eq_or_channels_of_row_eq (keyInTable key member)
      (keyInTable other otherMember) same with one | ⟨name, address, name', address', rfl, rfl, row⟩
    · exact one
    · obtain ⟨rfl, rfl⟩ := apart name address name' address' member otherMember row
      rfl

/-! ## Published projections -/

namespace Projection

variable {snapshot : Snapshot} {samples : SampleSet}

/-- The series of a projection show its samples one by one. -/
theorem exists_series_shows (projected : (project snapshot).1 = .ok samples) :
    ∃ series, samples.series = .ok series ∧
      List.Forall₂ (fun sample one => Series.Shows one sample) samples.samples series := by
  have inTable := project_inTable projected
  obtain ⟨series, checked⟩ := exists_series_of_project projected
  refine ⟨series, checked, ?_⟩
  have given := forall₂_of_mapM_eq_ok checked
  rw [List.forall₂_iff_get] at given ⊢
  exact ⟨given.1, fun i h₁ h₂ =>
    Series.shows_of_inTable (inTable _ (List.get_mem _ _)) (given.2 i h₁ h₂)⟩

/-- A projection that is published is exposed with a line for each of its samples and one
for the availability, and nothing else, exactly when its channels are apart. -/
theorem published_lines_iff {registry : Registry} (known : registry.Known)
    (projected : (project snapshot).1 = .ok samples) :
    ((dataLines (registry.publish samples).1.render).map (· ++ "\n")).Perm
        ("bbox_up 1\n" :: samples.samples.map sampleLine) ↔
      samples.ChannelsApart := by
  obtain ⟨series, checked, shown⟩ := exists_series_shows projected
  have exposed := Registry.dataLines_render_perm (Registry.known_publish known samples)
  rw [Registry.publish_of_series_ok checked known] at exposed ⊢
  have available : Series.text ⟨.up, [], 1.0⟩ = "bbox_up 1\n" := by decide +kernel
  rw [available] at exposed
  rw [← SampleSet.rows_nodup_iff (project_ordered projected) (project_inTable projected),
    ← tags_nodup_iff_of_shows shown, ← map_text_of_shows shown]
  constructor
  · intro complete
    have lengths := (exposed.symm.trans complete).length_eq
    exact length_writeSeries_eq_iff.mp (by simpa using lengths)
  · intro distinct
    have whole : writeSeries [] series = series := writeSeries_of_nodup (by simpa using distinct)
    rw [whole] at exposed ⊢
    exact exposed

/-- Channels with quotes, line feeds and one name are apart by their addresses, and a
channel without a name goes by its address. -/
theorem odd_channels_exposed :
    let channels : List Payload.Channel :=
      [{ address := "232.0.0.1", name := "a\"\x7d 1\n", receipt := .value 1.0 },
        { address := "232.0.0.2", name := "a\"\x7d 1\n", receipt := .value 0.0 },
        { address := "232.0.0.3", receipt := .value 1.0 }]
    let snapshot : Snapshot :=
      { device := ⟨[{}], [{}], [{}]⟩, services := [{}], wan := ⟨[{}], [{}], [{}], [{}]⟩
        lan := ⟨[{}], [{}], [[]]⟩, wireless := [], dns := [{}], iptv := [{ channels }] }
    ∃ samples, (project snapshot).1 = .ok samples ∧ Registry.down.Known ∧
      samples.ChannelsApart ∧
      ((dataLines (Registry.down.publish samples).1.render).map (· ++ "\n")).Perm
        ("bbox_up 1\n" :: samples.samples.map sampleLine) := by
  intro channels snapshot
  have projected : (project snapshot).1 = .ok ((wholeScript snapshot).run {}).samples := rfl
  have apart : ((wholeScript snapshot).run {}).samples.ChannelsApart := by
    refine (SampleSet.rows_nodup_iff (project_ordered projected) (project_inTable projected)).mp ?_
    decide +kernel
  exact ⟨_, projected, Registry.known_down, apart,
    (published_lines_iff Registry.known_down projected).mpr apart⟩

/-- Two channels whose name and address are alike in a row share one line: the first one
keeps its labels there, with the value of the second one. -/
theorem alike_channels_share_line :
    let channels : List Payload.Channel :=
      [{ address := "c", name := "ab", receipt := .value 1.0 },
        { address := "bc", name := "a", receipt := .value 0.0 }]
    let snapshot : Snapshot :=
      { device := ⟨[{}], [{}], [{}]⟩, services := [{}], wan := ⟨[{}], [{}], [{}], [{}]⟩
        lan := ⟨[{}], [{}], [[]]⟩, wireless := [], dns := [{}], iptv := [{ channels }] }
    ∃ samples, (project snapshot).1 = .ok samples ∧
      samples.get? (channelKey "a" "bc") = some 0.0 ∧
      ((Registry.down.publish samples).1.series.map fun one => (one.labelValues, one.value)).head? =
        some (["a", "bc"], 1.0) ∧
      ¬((dataLines (Registry.down.publish samples).1.render).map (· ++ "\n")).Perm
        ("bbox_up 1\n" :: samples.samples.map sampleLine) := by
  intro channels snapshot
  have projected : (project snapshot).1 = .ok ((wholeScript snapshot).run {}).samples := rfl
  refine ⟨_, projected, by decide +kernel, by decide +kernel, fun complete => ?_⟩
  have exposed := Registry.dataLines_render_perm
    (Registry.known_publish Registry.known_down ((wholeScript snapshot).run {}).samples)
  have lengths := (exposed.symm.trans complete).length_eq
  simp only [List.length_cons, List.length_map] at lengths
  exact absurd lengths (by decide +kernel)

end Projection

end RouterTelemetry
