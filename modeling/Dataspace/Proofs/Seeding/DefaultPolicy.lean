import Dataspace.Proofs.Provisioning.Grammar
import Dataspace.Proofs.Seeding.Delivery
import Dataspace.Proofs.Seeding.Position
import Dataspace.Proofs.Seeding.Services

/-!
# The policy that offers rely on

Offers name a policy by its id, files by an entry. A contract definition comes
after a look-up of every policy of the fixture on its connector
(`seed_looksUp`). The built-in default policy is among them unless the file
replaces the entry and brings back the id under no other (`seed_defaultPolicy`);
offers rely on it all the same (`seed_defaultPolicy_replaced`).
-/

namespace Dataspace

open Plan

-- ---------------------------------------------------------------------------
-- The policies of a fixture
-- ---------------------------------------------------------------------------

namespace Fixture

def entriesOf : Option Json → Members Json
  | some (.object members) => .ofList members
  | _ => .empty

def declaredPolicies (bytes : ByteArray) : Members Json :=
  entriesOf (((String.fromUTF8? bytes).bind Json.parse?).bind (Json.member? "policies"))

/-- No entry replaces the built-in one, or one goes by its id. -/
def KeepsDefault (bytes : ByteArray) : Prop :=
  "default" ∉ (declaredPolicies bytes).names ∨
    ∃ entry ∈ (declaredPolicies bytes).entries, policyId? entry.2 = some "default-policy"

theorem effectivePolicies_ok (h : effectivePolicies found = .ok effective) :
    effective = defaultPolicies.merge (entriesOf found) := by
  unfold effectivePolicies at h
  split at h
  · cases h
    rfl
  · cases h
    rfl
  · cases h
    rfl
  · cases h

theorem ofMembers_policies (h : ofMembers members = .ok fixture) :
    effectivePolicies (Members.find? "policies" members) = .ok fixture.policies := by
  unfold ofMembers at h
  split at h
  · cases h
  · split at h
    · cases h
    · obtain ⟨policies, hpolicies, hfixture⟩ := Settings.andThen_ok.mp h
      cases hfixture
      exact hpolicies

theorem ofBytes_policies (h : ofBytes (some bytes) = .ok fixture) :
    fixture.policies = defaultPolicies.merge (declaredPolicies bytes) := by
  obtain ⟨text, htext, h⟩ := ofBytes_ok h
  obtain ⟨members, hparse, h⟩ := ofText_ok h
  rw [declaredPolicies, htext, Option.bind_some, hparse]
  exact effectivePolicies_ok (ofMembers_policies h)

theorem mem_defaultPolicies {entry : String × Json} (h : entry ∈ defaultPolicies.entries) :
    entry.1 = "default" ∧ policyId? entry.2 = some "default-policy" := by
  obtain rfl := List.mem_singleton.mp h
  exact ⟨rfl, rfl⟩

theorem keepsDefault_iff (h : ofBytes (some bytes) = .ok fixture) :
    KeepsDefault bytes ↔ "default-policy" ∈ policyIds fixture.policies := by
  rw [policyIds, List.mem_filterMap, ofBytes_policies h]
  constructor
  · rintro (absent | ⟨entry, declared, named⟩)
    · obtain ⟨entry, builtIn⟩ : ∃ entry, entry ∈ defaultPolicies.entries := ⟨_, .head _⟩
      obtain ⟨name, named⟩ := mem_defaultPolicies builtIn
      exact ⟨entry, Members.mem_merge.mpr (.inr ⟨name ▸ absent, builtIn⟩), named⟩
    · exact ⟨entry, Members.mem_merge.mpr (.inl declared), named⟩
  · rintro ⟨entry, merged, named⟩
    rcases Members.mem_merge.mp merged with declared | ⟨absent, builtIn⟩
    · exact .inr ⟨entry, declared, named⟩
    · exact .inl ((mem_defaultPolicies builtIn).1 ▸ absent)

end Fixture

-- ---------------------------------------------------------------------------
-- Policies come first
-- ---------------------------------------------------------------------------

def Event.ConcernsPolicy : Event → Prop
  | .exchanged ⟨.findPolicy .., _⟩ | .exchanged ⟨.createPolicy .., _⟩ | .noted _ => True
  | _ => False

theorem emits_ensurePolicies (config : Config) (policies : Members Json) :
    (config.ensurePolicies policies).Emits Event.ConcernsPolicy :=
  .forM fun _ _ => emits_ensureNamedPolicy (fun _ => trivial) fun _ _ _ _ _ => ⟨trivial, trivial⟩

theorem not_mem_ensurePolicies {config : Config} {policies : Members Json} {exchange : Exchange}
    (h : Trace (config.ensurePolicies policies) events outcome)
    (posted : exchange.call = .createDefinition connector definition) :
    exchange ∉ events.filterMap Event.exchange? := by
  intro hx
  have concerns := emits_ensurePolicies config policies _ _ h _ (Event.mem_exchanges.mp hx)
  obtain ⟨call, answer⟩ := exchange
  obtain rfl : call = .createDefinition connector definition := posted
  exact concerns

theorem looksUp_ensurePolicy {id : String}
    (h : Trace (ensurePolicy connector id policy) events (some u)) :
    ∃ answer, .exchanged ⟨.findPolicy connector id, answer⟩ ∈ events := by
  obtain ⟨_, rfl, hask⟩ := trace_say_bind.mp h
  obtain ⟨found, _, rfl, -⟩ := trace_ask_bind_some.mp hask
  exact ⟨.ok found, .tail _ (.head _)⟩

theorem looksUp_ensurePolicies {config : Config} {policies : Members Json} {id : String}
    (h : Trace (config.ensurePolicies policies) events (some u)) (hid : id ∈ policyIds policies)
    (hc : connector ∈ config.connectorUploadUrls) :
    ∃ answer, .exchanged ⟨.findPolicy connector id, answer⟩ ∈ events := by
  obtain ⟨entry, hentry, named⟩ := List.mem_filterMap.mp hid
  obtain ⟨_, entries⟩ := trace_forM_some h
  obtain ⟨part, _, hpart, hsub⟩ := entries.exists_of_mem hentry
  simp only [ensureNamedPolicy, named] at hpart
  obtain ⟨_, connectors⟩ := trace_forM_some hpart
  obtain ⟨_, _, hlast, hlastSub⟩ := connectors.exists_of_mem hc
  obtain ⟨answer, ha⟩ := looksUp_ensurePolicy hlast
  exact ⟨answer, hsub (hlastSub ha)⟩

theorem trace_seed_policies (h : Trace (seed config fixture) events outcome) :
    Trace (config.ensurePolicies fixture.policies) events none ∨
      ∃ first rest, events = first ++ rest ∧
        Trace (config.ensurePolicies fixture.policies) first (some ()) := by
  rcases trace_bind.mp h with ⟨_, _, rest, rfl, hprovision, -⟩ | ⟨-, hprovision⟩
  · obtain ⟨_, first, middle, rfl, hfirst, -⟩ := trace_bind_some.mp hprovision
    exact .inr ⟨first, middle ++ rest, List.append_assoc .., hfirst⟩
  · rcases trace_bind.mp hprovision with ⟨_, first, rest, rfl, hfirst, -⟩ | ⟨-, stopped⟩
    · exact .inr ⟨first, rest, rfl, hfirst⟩
    · exact .inl stopped

section
variable {settings : Settings} {config : Config} {world : World} {fixture : Fixture}
  {exchange : Exchange} {before after : List Exchange}

/-- Whatever is answered, and wherever the run ends. -/
theorem seed_looksUp {id : String} (parallel : config.Parallel n)
    (run : (seed config fixture).run world (.start .initial) = (result, later))
    (split : later.exchanges = before ++ exchange :: after)
    (posted : exchange.call = .createDefinition connector definition)
    (hid : id ∈ policyIds fixture.policies) :
    ∃ earlier ∈ before, earlier.call = .findPolicy connector id := by
  have serves := run_serves parallel run (split ▸ List.mem_append_right _ (.head _))
  rw [posted] at serves
  rcases trace_seed_policies (trace_history run) with stopped | ⟨first, rest, hhistory, hfirst⟩
  · refine absurd ?_ (not_mem_ensurePolicies stopped posted)
    rw [← Progress.exchanges, split]
    exact List.mem_append_right _ (.head _)
  rw [Progress.exchanges, hhistory, List.filterMap_append] at split
  rcases append_eq_split split with ⟨middle, hmiddle⟩ | ⟨middle, rfl, -⟩
  · refine absurd ?_ (not_mem_ensurePolicies hfirst posted)
    rw [hmiddle]
    exact List.mem_append_right _ (.head _)
  · obtain ⟨answer, ha⟩ := looksUp_ensurePolicies hfirst hid serves
    exact ⟨_, List.mem_append_left _ (Event.mem_exchanges.mpr ha), rfl⟩

/-- A contract definition comes after a look-up of the policy that offers rely on
if and only if the file keeps that policy. -/
theorem seed_defaultPolicy (valid : settings.validate = .ok config)
    (unnamed : settings.policy = none) (read : Fixture.ofBytes (some bytes) = .ok fixture)
    (run : (seed config fixture).run world (.start .initial) = (result, later))
    (split : later.exchanges = before ++ exchange :: after)
    (posted : exchange.call = .createDefinition connector definition) :
    config.defaultPolicy = "default-policy" ∧ connector ∈ config.connectorUploadUrls ∧
    (Fixture.KeepsDefault bytes ↔ ∃ earlier ∈ before,
      earlier.call = .findPolicy connector config.defaultPolicy ∧
      earlier.call.request =
        .get (connector ++ "/management/v2/policydefinitions" ++ "/" ++ "default-policy")) := by
  have parallel := Settings.validate_parallel valid
  have builtIn : config.defaultPolicy = "default-policy" := by
    rw [Settings.validate_defaultPolicy valid, unnamed]
    rfl
  have serves := run_serves parallel run (split ▸ List.mem_append_right _ (.head _))
  rw [posted] at serves
  refine ⟨builtIn, serves, ?_⟩
  rw [Fixture.keepsDefault_iff read, builtIn]
  constructor
  · intro kept
    obtain ⟨earlier, he, hcall⟩ := seed_looksUp parallel run split posted kept
    exact ⟨earlier, he, hcall, congrArg Call.request hcall⟩
  · rintro ⟨earlier, he, hcall, -⟩
    have found := run_serves parallel run (split ▸ List.mem_append_left _ he)
    rw [hcall] at found
    exact found.2

end

namespace Sample

def policyFile (policies : String) : String :=
  "\x7b\"https://catenax.io/schema/TestDataContainer/1.0.0\":[],\"policies\":" ++ policies ++ "\x7d"

def replaced : Json := .object [("@id", .string "replaced")]

def broughtBack : Json := .object [("@id", .string "default-policy")]

def replacingFile : String := policyFile "\x7b\"default\":\x7b\"@id\":\"replaced\"\x7d\x7d"

def keepingFile : String :=
  policyFile "\x7b\"default\":\x7b\"@id\":\"replaced\"\x7d,\"own\":\x7b\"@id\":\"default-policy\"\x7d\x7d"

def replacedFixture : Fixture := ⟨[], .ofList [("default", replaced)]⟩

def keptFixture : Fixture := ⟨[], .ofList [("default", replaced), ("own", broughtBack)]⟩

theorem replacingFile_members : Json.parseMembers replacingFile =
    .ok [("https://catenax.io/schema/TestDataContainer/1.0.0", .array []),
      ("policies", .object [("default", replaced)])] := by
  refine Json.parseMembers_eq (toList_append_eq (toList_append_eq String.toList_ofList
    String.toList_ofList) String.toList_ofList) ?first ?read
  case first => rfl
  case read => rfl

theorem keepingFile_members : Json.parseMembers keepingFile =
    .ok [("https://catenax.io/schema/TestDataContainer/1.0.0", .array []),
      ("policies", .object [("default", replaced), ("own", broughtBack)])] := by
  refine Json.parseMembers_eq (toList_append_eq (toList_append_eq String.toList_ofList
    String.toList_ofList) String.toList_ofList) ?first ?read
  case first => rfl
  case read => rfl

theorem replacingFile_read :
    Fixture.ofBytes (some replacingFile.toUTF8) = .ok replacedFixture := by
  rw [Fixture.ofBytes_toUTF8 replacingFile_members]
  rfl

theorem keepingFile_read : Fixture.ofBytes (some keepingFile.toUTF8) = .ok keptFixture := by
  rw [Fixture.ofBytes_toUTF8 keepingFile_members]
  rfl

end Sample

/-- The file replaces the entry and keeps the id. -/
theorem seed_defaultPolicy_sample : ∃ result later before exchange after definition,
    (seed Sample.config Sample.keptFixture).run Sample.world (.start .initial) =
      (result, later) ∧
    later.exchanges = before ++ exchange :: after ∧
    exchange.call = .createDefinition "http://connector-0" definition ∧
    (Fixture.KeepsDefault Sample.keepingFile.toUTF8 ↔ ∃ earlier ∈ before,
      earlier.call = .findPolicy "http://connector-0" "default-policy" ∧
      earlier.call.request = .get ("http://connector-0" ++ "/management/v2/policydefinitions" ++
        "/" ++ "default-policy")) ∧
    Fixture.KeepsDefault Sample.keepingFile.toUTF8 := by
  obtain ⟨result, later, before, exchange, after, definition, run, split, posted⟩ :
      ∃ result later before exchange after definition,
        (seed Sample.config Sample.keptFixture).run Sample.world (.start .initial) =
          (result, later) ∧
        later.exchanges = before ++ exchange :: after ∧
        exchange.call = .createDefinition "http://connector-0" definition :=
    ⟨_, _, [_, _, _, _, _, _, _, _, _, _], _, _, _, rfl, rfl, rfl⟩
  obtain ⟨builtIn, -, looksUp⟩ :=
    seed_defaultPolicy Sample.settings_valid rfl Sample.keepingFile_read run split posted
  refine ⟨result, later, before, exchange, after, definition, run, split, posted, looksUp, ?_⟩
  exact (Fixture.keepsDefault_iff Sample.keepingFile_read).mpr (.tail _ (.head _))

/-- The registry is offered under a policy that no call has looked for. -/
theorem seed_defaultPolicy_replaced :
    Sample.settings.validate = .ok Sample.config ∧ Sample.settings.policy = none ∧
    Fixture.ofBytes (some Sample.replacingFile.toUTF8) = .ok Sample.replacedFixture ∧
    ∃ result later before exchange after definition,
      (seed Sample.config Sample.replacedFixture).run Sample.world (.start .initial) =
        (result, later) ∧
      later.exchanges = before ++ exchange :: after ∧
      exchange.call = .createDefinition "http://connector-0" definition ∧
      "http://connector-0" ∈ Sample.config.connectorUploadUrls ∧
      Document.accessPolicy? definition.toJson = some Sample.config.defaultPolicy ∧
      ∀ earlier ∈ before, earlier.call.request ≠
        .get ("http://connector-0" ++ "/management/v2/policydefinitions" ++ "/" ++
          Sample.config.defaultPolicy) := by
  obtain ⟨result, later, before, exchange, after, definition, run, split, posted, access, urls⟩ :
      ∃ result later before exchange after definition,
        (seed Sample.config Sample.replacedFixture).run Sample.world (.start .initial) =
          (result, later) ∧
        later.exchanges = before ++ exchange :: after ∧
        exchange.call = .createDefinition "http://connector-0" definition ∧
        Document.accessPolicy? definition.toJson = some Sample.config.defaultPolicy ∧
        before.map (fun earlier => earlier.call.url) =
          [Endpoint.policyDefinition "http://connector-0" "replaced",
            Endpoint.policyDefinitions "http://connector-0",
            Endpoint.policyDefinition "http://connector-1" "replaced",
            Endpoint.policyDefinitions "http://connector-1",
            Endpoint.catalog "http://connector-0", Endpoint.assets "http://connector-0"] :=
    ⟨_, _, [_, _, _, _, _, _], _, _, _, rfl, rfl, rfl, rfl, rfl⟩
  refine ⟨Sample.settings_valid, rfl, Sample.replacingFile_read, result, later, before, exchange,
    after, definition, run, split, posted, .head _, access, fun earlier he same => ?_⟩
  have called : earlier.call.url ∈ before.map fun earlier => earlier.call.url :=
    List.mem_map_of_mem he
  rw [urls, show earlier.call.url = _ from congrArg Request.url same] at called
  exact absurd called (by decide +kernel)

end Dataspace
