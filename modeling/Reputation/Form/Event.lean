/-
**The structured forms of events.**

An identity is the number or the 32 bytes that it is made of; a fingerprint is read as it is, with
no bit cut off. Tiers and chains go by their names.
-/

import Reputation.Event.Chain
import Reputation.Form.Datum

namespace Reputation

open Form

instance : Form EntityId where
  toDatum entity := toDatum entity.value
  ofDatum? datum := (ofDatum? datum).map EntityId.mk

instance : Form RaterId where
  toDatum rater := toDatum rater.bytes
  ofDatum? datum := (ofDatum? datum).map RaterId.mk

instance : Form Seal where
  toDatum content := toDatum content.bytes
  ofDatum? datum := (ofDatum? datum).map Seal.mk

instance : Form Fingerprint where
  toDatum fingerprint := toDatum fingerprint.value
  ofDatum? datum := (ofDatum? datum).map Fingerprint.mk

/-- The tier of a name. -/
def Tier.ofName? (name : String) : Option Tier :=
  (Tier.unrated :: Tier.rated).find? (·.name = name)

instance : Form Tier where
  toDatum tier := .text tier.name
  ofDatum? datum := datum.alternative?.bind Tier.ofName?

/-- The chain of a name. -/
def ChainKind.ofName? (name : String) : Option ChainKind := ChainKind.all.find? (·.name = name)

instance : Form ChainKind where
  toDatum kind := .text kind.name
  ofDatum? datum := datum.alternative?.bind ChainKind.ofName?

instance : Form Heads where
  toDatum heads := .table [
    ("feedback", toDatum heads.feedback),
    ("revoke", toDatum heads.revocation),
    ("response", toDatum heads.response)]
  ofDatum? datum := do
    let [feedback, revocation, response] ← datum.members? ["feedback", "revoke", "response"]
      | none
    return {
      feedback := ← Datum.required feedback
      revocation := ← Datum.required revocation
      response := ← Datum.required response }

instance : Form Feedback where
  toDatum event := .table [
    ("entity", toDatum event.entity),
    ("rater", toDatum event.rater),
    ("score", toDatum event.score),
    ("sequence_index", toDatum event.sequence),
    ("time_marker", toDatum event.time),
    ("seal", toDatum event.content)]
  ofDatum? datum := do
    let [entity, rater, score, sequence, time, content] ←
      datum.members? ["entity", "rater", "score", "sequence_index", "time_marker", "seal"] | none
    return {
      entity := ← Datum.required entity
      rater := ← Datum.required rater
      score := ← Datum.required score
      sequence := ← Datum.required sequence
      time := ← Datum.required time
      content := ← Datum.required content }

instance : Form Revocation where
  toDatum event := .table [
    ("entity", toDatum event.entity),
    ("rater", toDatum event.rater),
    ("sequence_index", toDatum event.sequence),
    ("time_marker", toDatum event.time),
    ("claimed_seal", toDatum event.claimed)]
  ofDatum? datum := do
    let [entity, rater, sequence, time, claimed] ←
      datum.members? ["entity", "rater", "sequence_index", "time_marker", "claimed_seal"] | none
    return {
      entity := ← Datum.required entity
      rater := ← Datum.required rater
      sequence := ← Datum.required sequence
      time := ← Datum.required time
      claimed := ← Datum.required claimed }

instance : Form Response where
  toDatum event := .table [
    ("entity", toDatum event.entity),
    ("rater", toDatum event.rater),
    ("sequence_index", toDatum event.sequence),
    ("time_marker", toDatum event.time),
    ("seal", toDatum event.content)]
  ofDatum? datum := do
    let [entity, rater, sequence, time, content] ←
      datum.members? ["entity", "rater", "sequence_index", "time_marker", "seal"] | none
    return {
      entity := ← Datum.required entity
      rater := ← Datum.required rater
      sequence := ← Datum.required sequence
      time := ← Datum.required time
      content := ← Datum.required content }

end Reputation
