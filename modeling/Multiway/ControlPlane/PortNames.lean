import Multiway.ControlPlane.Wiring

/-!
# Names of ports

Each port of a data plane has the name of the first listener with that port. A
name that is too long for a port is cut and gets a hash of the whole as suffix,
so two listeners may end up with one name: two long names that agree in the part
that is kept and in the hash, or a short name that is the one a long name is
cut to. `portsUnambiguous_iff` says that nothing else can go wrong.
-/

namespace Multiway.ControlPlane

open Multiway.Lib
open Multiway.Lib.Text
open Multiway.Kube

/-! ## What a name is cut to -/

def IsLongName (name : String) : Prop := maxPortNameLength < name.utf8ByteSize

/-- The sixteen bits of the hash of a name. -/
def portNameHash (name : String) : ℕ :=
  ((name.toUTF8.toList.foldl (fun (acc : UInt32) b => acc * 31 + b.toUInt32) 0) &&& 0xFFFF).toNat

/-- What a long name keeps, without hyphens at its end. -/
def portNameStem (name : String) : List Char :=
  let truncateLen := maxPortNameLength - 1 - (hexDigits (portNameHash name)).utf8ByteSize
  ((name.toList.take truncateLen).reverse.dropWhile (· == '-')).reverse

/-- A long name becomes its stem and its hash. -/
def cutName (name : String) : List Char :=
  portNameStem name ++ '-' :: Nat.toDigits 16 (portNameHash name)

/-- Two names get one port name. -/
inductive PortNamesClash (a b : String) : Prop
  | cut (long : IsLongName a) (long' : IsLongName b) (stem : portNameStem a = portNameStem b)
      (hash : portNameHash a = portNameHash b)
  | right (long : IsLongName a) (short : ¬IsLongName b) (eq : b.toList = cutName a)
  | left (short : ¬IsLongName a) (long : IsLongName b) (eq : a.toList = cutName b)

theorem sanitizePortName_of_short {name : String} (h : ¬IsLongName name) :
    sanitizePortName name = name :=
  if_pos (Nat.not_lt.mp h)

theorem toList_sanitizePortName {name : String} (h : IsLongName name) :
    (sanitizePortName name).toList = cutName name := by
  have hcut : sanitizePortName name =
      String.ofList (portNameStem name) ++ "-" ++ hexDigits (portNameHash name) :=
    if_neg (Nat.not_le.mpr h)
  have hhyphen : "-".toList = ['-'] := rfl
  rw [hcut, String.toList_append, String.toList_append, String.toList_ofList, hhyphen, hexDigits,
    String.toList_ofList, List.append_assoc, List.singleton_append, cutName]

/-- The hash has no hyphen, so it and the stem can be told from the whole. -/
theorem cutName_inj {a b : String} :
    cutName a = cutName b ↔ portNameStem a = portNameStem b ∧ portNameHash a = portNameHash b := by
  have hsplit (name : String) : rsplitOnce '-' (cutName name) =
      some (portNameStem name, Nat.toDigits 16 (portNameHash name)) :=
    rsplitOnce_append_cons (hyphen_notMem_toDigits (by decide) (by decide) _)
  constructor
  · intro h
    have hboth := congrArg (rsplitOnce '-') h
    rw [hsplit, hsplit, Option.some.injEq, Prod.mk.injEq] at hboth
    exact ⟨hboth.1, toDigits_inj (by decide) (by decide) hboth.2⟩
  · intro h
    unfold cutName
    rw [h.1, h.2]

/-- Different names get one port name when they clash. -/
theorem sanitizePortName_eq_iff {a b : String} (hne : a ≠ b) :
    sanitizePortName a = sanitizePortName b ↔ PortNamesClash a b := by
  rw [← String.toList_inj]
  by_cases ha : IsLongName a
  · by_cases hb : IsLongName b
    · rw [toList_sanitizePortName ha, toList_sanitizePortName hb, cutName_inj]
      constructor
      · intro h
        exact .cut ha hb h.1 h.2
      · intro h
        cases h with
        | cut _ _ stem hash => exact ⟨stem, hash⟩
        | right _ short => exact absurd hb short
        | left short => exact absurd ha short
    · rw [toList_sanitizePortName ha, sanitizePortName_of_short hb]
      constructor
      · intro h
        exact .right ha hb h.symm
      · intro h
        cases h with
        | cut _ long' => exact absurd long' hb
        | right _ _ eq => exact eq.symm
        | left short => exact absurd ha short
  · by_cases hb : IsLongName b
    · rw [sanitizePortName_of_short ha, toList_sanitizePortName hb]
      constructor
      · intro h
        exact .left ha hb h
      · intro h
        cases h with
        | cut long => exact absurd long ha
        | right long => exact absurd long ha
        | left _ _ eq => exact eq
    · rw [sanitizePortName_of_short ha, sanitizePortName_of_short hb, String.toList_inj]
      refine iff_of_false hne ?_
      intro h
      cases h with
      | cut long => exact ha long
      | right long => exact ha long
      | left _ long => exact hb long

/-! ## Ports of the Service and of the Deployment -/

/-- No two entries share a number, and no two share a name. -/
structure Unambiguous (numbers : List ℤ) (names : List (Option String)) : Prop where
  numbers : numbers.Nodup
  names : names.Nodup

/-- Both lists of ports that are built for a Gateway. -/
structure PortsUnambiguous (names : DataPlaneNames) (gateway : Gateway)
    (config : ControllerConfig) : Prop where
  service : Unambiguous ((servicePorts (buildService names gateway)).map ServicePort.port)
    ((servicePorts (buildService names gateway)).map ServicePort.name)
  deployment : Unambiguous
    ((portsOfContainers (buildDeployment names gateway config)).map ContainerPort.containerPort)
    ((portsOfContainers (buildDeployment names gateway config)).map ContainerPort.name)

section
variable {gateway : Gateway} {names : DataPlaneNames} {config : ControllerConfig}

/-- The first listener of each port gives its number and its name. -/
def portNumbers (listeners : List GatewayListeners) : List ℤ :=
  (firsts GatewayListeners.port listeners).map GatewayListeners.port

def portNames (listeners : List GatewayListeners) : List (Option String) :=
  (firsts GatewayListeners.port listeners).map fun listener =>
    some (sanitizePortName listener.name)

/-- Both lists have the same numbers and names. -/
theorem portsUnambiguous_iff_nodup :
    PortsUnambiguous names gateway config ↔ (portNames gateway.spec.listeners).Nodup := by
  have hnumbers : (portNumbers gateway.spec.listeners).Nodup := nodup_map_key_firsts _
  constructor
  · intro h
    have hnames := h.service.names
    rw [map_servicePorts] at hnames
    exact hnames
  · intro h
    refine ⟨⟨?_, ?_⟩, ⟨?_, ?_⟩⟩
    · rw [map_servicePorts]
      exact hnumbers
    · rw [map_servicePorts]
      exact h
    · rw [map_portsOfContainers]
      exact hnumbers
    · rw [map_portsOfContainers]
      exact h

end

/-- **When the ports are unambiguous.** No two listeners that are the first of
their port have names that clash. -/
theorem portsUnambiguous_iff (names : DataPlaneNames) (gateway : Gateway)
    (config : ControllerConfig)
    (hnames : (gateway.spec.listeners.map GatewayListeners.name).Nodup) :
    PortsUnambiguous names gateway config ↔
      ∀ a ∈ firsts GatewayListeners.port gateway.spec.listeners,
        ∀ b ∈ firsts GatewayListeners.port gateway.spec.listeners, a.port ≠ b.port →
          ¬PortNamesClash a.name b.name := by
  have hports : ((firsts GatewayListeners.port gateway.spec.listeners).map
      GatewayListeners.port).Nodup := nodup_map_key_firsts _
  have hkept : (firsts GatewayListeners.port gateway.spec.listeners).Nodup := hports.of_map _
  rw [portsUnambiguous_iff_nodup, portNames, List.nodup_map_iff_inj_on hkept]
  refine forall₂_congr fun a ha => forall₂_congr fun b hb => ?_
  have hname : a.name = b.name → a = b :=
    fun h => List.inj_on_of_nodup_map hnames (mem_of_mem_firsts ha) (mem_of_mem_firsts hb) h
  have hport : a.port = b.port → a = b :=
    fun h => List.inj_on_of_nodup_map hports ha hb h
  rw [Option.some.injEq]
  constructor
  · intro hinj hne hclash
    have hdiffer : a.name ≠ b.name := fun h => hne (congrArg GatewayListeners.port (hname h))
    have hsame := hinj ((sanitizePortName_eq_iff hdiffer).mpr hclash)
    exact hne (congrArg GatewayListeners.port hsame)
  · intro hnoclash hsame
    by_contra hne
    have hdiffer : a.name ≠ b.name := fun h => hne (hname h)
    exact hnoclash (fun h => hne (hport h)) ((sanitizePortName_eq_iff hdiffer).mp hsame)

/-- Two short names never clash. -/
theorem portsUnambiguous_short :
    PortsUnambiguous ⟨"default", "gw"⟩
      (gatewayWith [httpListener "http" 80, httpListener "alt" 8080]) {} := by
  refine (portsUnambiguous_iff _ _ {} (by decide)).mpr ?_
  have hshort : ∀ a ∈ firsts GatewayListeners.port
      (gatewayWith [httpListener "http" 80, httpListener "alt" 8080]).spec.listeners,
      ¬IsLongName a.name := by
    intro a ha
    rcases List.mem_pair.mp (mem_of_mem_firsts ha) with rfl | rfl
    · exact show ¬ 15 < _ by decide
    · exact show ¬ 15 < _ by decide
  intro a ha b hb _ hclash
  cases hclash with
  | cut long => exact hshort a ha long
  | right long => exact hshort a ha long
  | left _ long => exact hshort b hb long

/-- Two names of sixteen characters with one hash. -/
def teamListeners : List GatewayListeners :=
  [httpListener "listener-team-an" 80, httpListener "listener-team-c0" 81]

theorem team_ports_ambiguous :
    (teamListeners.map GatewayListeners.name).Nodup ∧
      ¬PortsUnambiguous ⟨"default", "gw"⟩ (gatewayWith teamListeners) {} := by
  refine ⟨by decide, ?_⟩
  rw [portsUnambiguous_iff_nodup]
  decide +kernel

end Multiway.ControlPlane
