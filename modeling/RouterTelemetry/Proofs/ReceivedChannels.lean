import RouterTelemetry.Proofs.OwnSamples
import RouterTelemetry.Proofs.PublishedLines
import RouterTelemetry.Proofs.RequiredPages

/-!
# Received channels

As long as no two channels share an address, television is shown in full: every channel is
counted, and each one whose receipt has a quantity has a sample of its own.  The address alone
keeps the samples apart; the name of a channel may be that of another one, or its address.
-/

namespace RouterTelemetry

namespace Payload

/-- The sample of a channel whose receipt has a quantity, under the name of the channel, or its
address if the name is empty. -/
def Channel.reception? (channel : Channel) : Option (SampleKey × Float) :=
  let name := if channel.name = "" then channel.address else channel.name
  channel.receipt.quantity?.map (channelKey name channel.address, ·)

end Payload

namespace Projection

open Payload

/-- The key of the number of channels. -/
def channelCountKey : SampleKey :=
  ⟨"bbox_iptv_channels", []⟩

variable {pages : List Television}

theorem sample?_channel (channel : Channel) :
    (Projection.channel channel).sample? = channel.reception? := by
  have name : orElse channel.name channel.address =
      if channel.name = "" then channel.address else channel.name := by
    simp [orElse, String.isEmpty_iff]
  rw [Channel.reception?, ← name]
  rfl

theorem ownSamples_iptv (pages : List Television) :
    Script.ownSamples (iptv pages) =
      (pages.flatMap (·.channels)).filterMap Channel.reception? ++
        [(channelCountKey, Float.ofNat (pages.flatMap (·.channels)).length)] := by
  change Script.ownSamples (List.map channel _ ++ [_]) = _
  rw [Script.ownSamples_append, Script.ownSamples, List.filterMap_map]
  exact congrArg (· ++ _) (List.filterMap_congr fun shown _ => sample?_channel shown)

theorem samples_iptv_perm (distinct : ((pages.flatMap (·.channels)).map (·.address)).Nodup) :
    ((iptv pages).run {}).samples.samples.Perm
      ((channelCountKey, Float.ofNat (pages.flatMap (·.channels)).length) ::
        (pages.flatMap (·.channels)).filterMap Channel.reception?) := by
  have own := Script.samples_run_perm (failure?_iptv pages) (keys_iptv_nodup distinct)
  rw [ownSamples_iptv] at own
  exact own.trans (List.perm_append_singleton _ _)

/-- Of channels with distinct addresses the projection leaves their number and a sample for each
one whose receipt has a quantity, and nothing else.  In what order the channels come and how they
are spread over pages makes no difference. -/
theorem channels_recorded_once
    (distinct : ((pages.flatMap (·.channels)).map (·.address)).Nodup) :
    let channels := pages.flatMap (·.channels)
    let outcome := (iptv pages).run {}
    outcome.failure = none ∧
      outcome.samples.samples.Perm
        ((⟨"bbox_iptv_channels", []⟩, Float.ofNat channels.length) ::
          channels.filterMap Channel.reception?) ∧
      ∀ others : List Television, (others.flatMap (·.channels)).Perm channels →
        ((iptv others).run {}).samples = outcome.samples := by
  intro channels outcome
  refine ⟨(Script.failure_run {} _).trans (failure?_iptv pages), samples_iptv_perm distinct,
    fun others reordered => ?_⟩
  have apart : ((others.flatMap (·.channels)).map (·.address)).Nodup :=
    (reordered.map _).nodup_iff.mpr distinct
  have listed : ((channelCountKey, Float.ofNat (others.flatMap (·.channels)).length) ::
      (others.flatMap (·.channels)).filterMap Channel.reception?).Perm
        ((channelCountKey, Float.ofNat channels.length) ::
          channels.filterMap Channel.reception?) := by
    rw [reordered.length_eq]
    exact (reordered.filterMap Channel.reception?).cons _
  exact (Script.ordered_run_empty _).eq_of_perm (Script.ordered_run_empty _)
    ((samples_iptv_perm apart).trans (listed.trans (samples_iptv_perm distinct).symm))

/-- A channel without a name stands before one that has its address for a name, and two others
share a name.  One receipt is missing and another one cannot be read. -/
theorem namesakes_recorded :
    let nameless : Channel := { address := "239.0.0.1", receipt := .value 1.0 }
    let namesake : Channel :=
      { name := "239.0.0.1", address := "239.0.0.2", receipt := .value 0.0 }
    let first : Channel := { name := "One", address := "239.0.0.3", receipt := .missing }
    let second : Channel :=
      { name := "One", address := "", receipt := .invalid (.value (.text "x") quantityName) }
    let pages : List Television :=
      [{ channels := [nameless, first] }, {}, { channels := [namesake, second] }]
    let samples := ((iptv pages).run {}).samples
    ((pages.flatMap (·.channels)).map (·.address)).Nodup ∧
      samples.samples.Perm
        [(⟨"bbox_iptv_channels", []⟩, 4.0), (channelKey "239.0.0.1" "239.0.0.1", 1.0),
          (channelKey "239.0.0.1" "239.0.0.2", 0.0)] ∧
      ((iptv [{ channels := [second, namesake, first, nameless] }]).run {}).samples = samples := by
  intro nameless namesake first second pages samples
  have distinct : ((pages.flatMap (·.channels)).map (·.address)).Nodup := by decide
  obtain ⟨-, recorded, reordered⟩ := channels_recorded_once distinct
  have listed : (⟨"bbox_iptv_channels", []⟩, Float.ofNat (pages.flatMap (·.channels)).length) ::
      (pages.flatMap (·.channels)).filterMap Channel.reception? =
        [(⟨"bbox_iptv_channels", []⟩, 4.0), (channelKey "239.0.0.1" "239.0.0.1", 1.0),
          (channelKey "239.0.0.1" "239.0.0.2", 0.0)] := by
    decide +kernel
  rw [listed] at recorded
  exact ⟨distinct, recorded, reordered _ (List.reverse_perm [nameless, first, namesake, second])⟩

end Projection

end RouterTelemetry
