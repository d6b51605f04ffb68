import Microcosm.GoMap

/-!
# The message topics of a master

`lib`. A master and its workers talk over four p2p topics, each named by `fmt.Sprintf` as a fixed
prefix followed by the master's id: `HeartbeatPingTopic`, `HeartbeatPongTopic`,
`WorkloadReportTopic` and `StatusUpdateTopic`. Master ids are arbitrary strings.

* `prefix_of_masterTopic_eq`: two such names are equal only if one prefix is a prefix of the
  other; none of the four prefixes is a prefix of another.
* `topic_injective`: so a topic name determines which of the four topics it is and the master it
  belongs to: no master's pings reach another master, or its pong, workload or status
  subscribers.
-/

namespace Microcosm

/-- `p2p.Topic`. -/
abbrev Topic := String

/-- `fmt.Sprintf(pfx + "%s", masterID)`: the topic `pfx` names for `masterID`. -/
def masterTopic (pfx : String) (masterID : MasterID) : Topic := pfx ++ masterID

/-- `HeartbeatPingTopic`. -/
def heartbeatPingTopic (masterID : MasterID) : Topic := masterTopic "heartbeat-ping-" masterID

/-- `HeartbeatPongTopic`. -/
def heartbeatPongTopic (masterID : MasterID) : Topic := masterTopic "heartbeat-pong-" masterID

/-- `WorkloadReportTopic`. -/
def workloadReportTopic (masterID : MasterID) : Topic := masterTopic "workload-report-" masterID

/-- `StatusUpdateTopic`. -/
def statusUpdateTopic (masterID : MasterID) : Topic := masterTopic "status-update-" masterID

/-- The four topic functions. -/
inductive TopicKind
  | heartbeatPing
  | heartbeatPong
  | workloadReport
  | statusUpdate
  deriving DecidableEq, Repr

namespace TopicKind

/-- The topic function of a kind. -/
def topic : TopicKind → MasterID → Topic
  | heartbeatPing => heartbeatPingTopic
  | heartbeatPong => heartbeatPongTopic
  | workloadReport => workloadReportTopic
  | statusUpdate => statusUpdateTopic

/-- The prefix of a kind's topics. -/
def pfx : TopicKind → String
  | heartbeatPing => "heartbeat-ping-"
  | heartbeatPong => "heartbeat-pong-"
  | workloadReport => "workload-report-"
  | statusUpdate => "status-update-"

theorem topic_eq (k : TopicKind) (masterID : MasterID) :
    k.topic masterID = masterTopic k.pfx masterID := by
  cases k <;> rfl

/-- Of two kinds, the prefix of one is a prefix of the other's only when they are one kind. -/
theorem eq_of_prefix {k₁ k₂ : TopicKind}
    (h : k₁.pfx.data <+: k₂.pfx.data ∨ k₂.pfx.data <+: k₁.pfx.data) : k₁ = k₂ := by
  revert h
  cases k₁ <;> cases k₂ <;> decide

end TopicKind

variable {p₁ p₂ : String} {m₁ m₂ : MasterID}

/-- Two topic names are equal only if one prefix is a prefix of the other. -/
theorem prefix_of_masterTopic_eq (h : masterTopic p₁ m₁ = masterTopic p₂ m₂) :
    p₁.data <+: p₂.data ∨ p₂.data <+: p₁.data := by
  have hd := congrArg String.data h
  simp only [masterTopic, String.data_append] at hd
  exact List.prefix_or_prefix_of_prefix (List.prefix_append _ _)
    (by rw [hd]; exact List.prefix_append _ _)

/-- One prefix names each master its own topic. -/
theorem masterTopic_cancel (h : masterTopic p₁ m₁ = masterTopic p₁ m₂) : m₁ = m₂ := by
  have hd := congrArg String.data h
  simp only [masterTopic, String.data_append] at hd
  exact String.ext (List.append_cancel_left hd)

/-- A topic name determines which of the four topics it is and the master it belongs to. -/
theorem topic_injective {k₁ k₂ : TopicKind} :
    k₁.topic m₁ = k₂.topic m₂ ↔ k₁ = k₂ ∧ m₁ = m₂ := by
  constructor
  · intro h
    rw [TopicKind.topic_eq, TopicKind.topic_eq] at h
    obtain rfl := TopicKind.eq_of_prefix (prefix_of_masterTopic_eq h)
    exact ⟨rfl, masterTopic_cancel h⟩
  · rintro ⟨rfl, rfl⟩
    rfl

end Microcosm
