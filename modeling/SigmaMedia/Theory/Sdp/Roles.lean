import SigmaMedia.Theory.Negotiation

/-!
# Roles of the Handshake

An answer always takes the passive role, so a media section of the offer has
to be free to take the active one. The role of a section is the one its own
setup line asks for, and the session's where it has none.

The two negotiations look at one half of that rule each. A viewer is held to
its media sections, which settles the matter. A streamer is held to its
session section, so a passive role that only a media section asks for goes
unnoticed, and that is the only way roles can clash.

## Main definitions

* `setupRole`: The role the first setup line of a section asks for.
* `effectiveRole`: The role of a media section.
* `RolesCompatible`: Both media sections can pair with a passive answer.

## Theorems

* `isPassiveDtlsRole_eq`: The check the code makes, by the role.
* `acceptStreamOffer_session_role`: What a streamer is held to.
* `acceptViewerOffer_media_roles`: What a viewer is held to.
* `rolesCompatible_iff`: When the roles of an accepted offer are compatible.
-/

namespace SigmaMedia

namespace Sdp

open Exec Net Text

/-- The role the first setup line of a section asks for. -/
def setupRole (lines : List SDPLine) : Option Setup :=
  findAttribute (fun | .setup setup => some setup | _ => none) lines

/-- The role of a media section: its own, and the session's if it has none. -/
def effectiveRole (sdp : SDP) (media : List SDPLine) : Option Setup :=
  (setupRole media).or (setupRole sdp.sessionSection)

/-- Both media sections have a role, and it can pair with a passive answer. -/
def RolesCompatible (sdp : SDP) : Prop :=
  ∀ media ∈ [sdp.audioSection, sdp.videoSection],
    ∃ role, effectiveRole sdp media = some role ∧ role ≠ .passive

/-- The check the code makes, by the role. -/
theorem isPassiveDtlsRole_eq (lines : List SDPLine) :
    isPassiveDtlsRole lines = (setupRole lines).map fun role => decide (role = .passive) := by
  unfold isPassiveDtlsRole setupRole findAttribute
  induction lines with
  | nil => rfl
  | cons line lines ih =>
      cases line with
      | attr attr =>
          cases attr with
          | setup setup => cases setup <;> rfl
          | _ => exact ih
      | _ => exact ih

/-- A section that passes the check has a role, and not the passive one. -/
theorem setupRole_of_not_passive {lines : List SDPLine} (h : isPassiveDtlsRole lines = some false) :
    ∃ role, setupRole lines = some role ∧ role ≠ .passive := by
  rw [isPassiveDtlsRole_eq, Option.map_eq_some_iff] at h
  rcases h with ⟨role, hrole, hpassive⟩
  exact ⟨role, hrole, of_decide_eq_false hpassive⟩

/-- A streamer is held to the role of its session section. -/
theorem acceptStreamOffer_session_role {resolver : SDPResolver} {rawData : Text} {draws : Draws}
    {session : NegotiatedSession} {sdp : SDP}
    (h : resolver.acceptStreamOffer rawData draws = .ok session) (hsdp : getSdp rawData = .ok sdp) :
    ∃ role, setupRole sdp.sessionSection = some role ∧ role ≠ .passive := by
  rcases acceptStreamOffer_eq_ok.mp h with ⟨offer, hoffer, hparse⟩
  rw [hsdp, Except.ok.injEq] at hoffer
  rw [← hoffer] at hparse
  rcases parseStreamOffer_eq_ok.mp hparse with ⟨_, _, _, _, _, _, _, _, _, hpassive, _⟩
  exact setupRole_of_not_passive hpassive

/-- A viewer is held to the roles of its media sections. -/
theorem acceptViewerOffer_media_roles {resolver : SDPResolver} {rawData : Text}
    {streamerSession session : NegotiatedSession} {draws : Draws} {sdp : SDP}
    (h : resolver.acceptViewerOffer rawData streamerSession draws = .ok session)
    (hsdp : getSdp rawData = .ok sdp) :
    (∃ role, setupRole sdp.audioSection = some role ∧ role ≠ .passive) ∧
      ∃ role, setupRole sdp.videoSection = some role ∧ role ≠ .passive := by
  rcases acceptViewerOffer_eq_ok.mp h with ⟨offer, hoffer, hparse⟩
  rw [hsdp, Except.ok.injEq] at hoffer
  rw [← hoffer] at hparse
  rcases parseViewerOffer_eq_ok.mp hparse with ⟨_, _, _, _, _, _, _, haudio, hvideo, _⟩
  rcases getViewerAudioSession_eq_ok.mp haudio with ⟨_, haudioPassive, _⟩
  rcases getViewerVideoSession_eq_ok.mp hvideo with ⟨_, hvideoPassive, _⟩
  exact ⟨setupRole_of_not_passive haudioPassive, setupRole_of_not_passive hvideoPassive⟩

/-- Under a session that does not ask for the passive role, a section is
    compatible exactly when it does not ask for it itself. -/
theorem effectiveRole_compatible_iff {sdp : SDP} {media : List SDPLine}
    (h : ∃ role, setupRole sdp.sessionSection = some role ∧ role ≠ .passive) :
    (∃ role, effectiveRole sdp media = some role ∧ role ≠ .passive) ↔
      setupRole media ≠ some .passive := by
  rcases h with ⟨sessionRole, hsession, hne⟩
  unfold effectiveRole
  -- Without a role of its own the section has that of the session, which is no
  -- passive one.
  rcases hmedia : setupRole media with _ | role
  · rw [Option.none_or, hsession]
    refine ⟨fun _ h => (by cases h), fun _ => ⟨sessionRole, rfl, hne⟩⟩
  · rw [Option.some_or]
    constructor
    · intro h hpassive
      rcases h with ⟨role', hrole, hne'⟩
      cases hrole
      cases hpassive
      exact hne' rfl
    · intro h
      exact ⟨role, rfl, fun hpassive => h (by rw [hpassive])⟩

/-- The roles of an accepted viewer are compatible. Those of an accepted
    streamer are exactly when neither media section asks for the passive role
    itself. -/
theorem rolesCompatible_iff (resolver : SDPResolver) (rawData : Text) (draws : Draws) (sdp : SDP)
    (hsdp : getSdp rawData = .ok sdp) :
    (∀ session, resolver.acceptStreamOffer rawData draws = .ok session →
      (RolesCompatible sdp ↔
        setupRole sdp.audioSection ≠ some .passive ∧ setupRole sdp.videoSection ≠ some .passive)) ∧
      ∀ streamerSession session,
        resolver.acceptViewerOffer rawData streamerSession draws = .ok session →
        RolesCompatible sdp := by
  refine ⟨?_, ?_⟩
  · intro session hstream
    -- A streamer is asked for a role in the session section alone.
    have hrole := acceptStreamOffer_session_role hstream hsdp
    simp only [RolesCompatible, List.forall_mem_cons, List.not_mem_nil, false_implies,
      implies_true, and_true, effectiveRole_compatible_iff hrole]
  · intro streamerSession session hviewer
    -- A viewer is asked for one in both media sections.
    rcases acceptViewerOffer_media_roles hviewer hsdp with ⟨⟨a, ha, hane⟩, v, hv, hvne⟩
    intro media hmedia
    simp only [List.mem_cons, List.not_mem_nil, or_false] at hmedia
    rcases hmedia with rfl | rfl
    · exact ⟨a, by rw [effectiveRole, ha, Option.some_or], hane⟩
    · exact ⟨v, by rw [effectiveRole, hv, Option.some_or], hvne⟩

/-- A streamer's offer whose audio section has a setup line of its own. -/
def audioSetupOffer (setup : Text) : Text :=
  ["v=0".toList, "o=- 1 0 IN IP4 127.0.0.1".toList, "s=-".toList, "t=0 0".toList,
    "a=group:BUNDLE 0 1".toList, "a=setup:actpass".toList,
    "a=ice-ufrag:user".toList, "a=ice-pwd:secret".toList,
    "m=audio 9 UDP/TLS/RTP/SAVPF 0".toList, "a=mid:0".toList, "a=rtcp-mux".toList,
    "a=setup:".toList ++ setup, "a=sendonly".toList, "a=rtpmap:111 opus/48000/2".toList,
    "m=video 9 UDP/TLS/RTP/SAVPF 0".toList, "a=mid:1".toList, "a=rtcp-mux".toList,
    "a=sendonly".toList, "a=rtpmap:96 H264/90000".toList,
    "a=fmtp:96 packetization-mode=1".toList].flatMap (· ++ crlf)

theorem rolesCompatible_active_audio :
    ∃ sdp session, getSdp (audioSetupOffer "active".toList) = .ok sdp ∧
      loopbackResolver.acceptStreamOffer (audioSetupOffer "active".toList) fixedDraws
        = .ok session ∧ RolesCompatible sdp := by
  have hstream : passes (getSdp (audioSetupOffer "active".toList)) (fun sdp =>
      decide (setupRole sdp.audioSection ≠ some .passive ∧
        setupRole sdp.videoSection ≠ some .passive) &&
      passes (loopbackResolver.parseStreamOffer sdp fixedDraws) fun _ => true) = true := by
    decide +kernel
  rcases of_passes_bind hstream with ⟨sdp, session, hok, haccept, hroles, _⟩
  refine ⟨sdp, session, hok, haccept, ?_⟩
  exact ((rolesCompatible_iff loopbackResolver _ fixedDraws sdp hok).1 session haccept).mpr
    (of_decide_eq_true hroles)

/-- A streamer whose audio section asks for the passive role is answered with
    the passive role. -/
theorem acceptStreamOffer_passive_audio :
    ∃ sdp session, getSdp (audioSetupOffer "passive".toList) = .ok sdp ∧
      loopbackResolver.acceptStreamOffer (audioSetupOffer "passive".toList) fixedDraws
        = .ok session ∧ SDPLine.attr (.setup .passive) ∈ session.sdpAnswer.sessionSection ∧
      ¬ RolesCompatible sdp := by
  have hstream : passes (getSdp (audioSetupOffer "passive".toList)) (fun sdp =>
      decide (setupRole sdp.audioSection = some .passive) &&
      passes (loopbackResolver.parseStreamOffer sdp fixedDraws) fun session =>
        decide (SDPLine.attr (.setup .passive) ∈ session.sdpAnswer.sessionSection)) = true := by
    decide +kernel
  rcases of_passes_bind hstream with ⟨sdp, session, hok, haccept, hrole, hanswer⟩
  refine ⟨sdp, session, hok, haccept, of_decide_eq_true hanswer, ?_⟩
  intro hcompatible
  rcases hcompatible sdp.audioSection List.mem_cons_self with ⟨role, heffective, hne⟩
  rw [effectiveRole, of_decide_eq_true hrole, Option.some_or, Option.some.injEq] at heffective
  exact hne heffective.symm

end Sdp

end SigmaMedia
