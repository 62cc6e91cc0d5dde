import TypedSql.Proofs.Generator.Exposure

/-!
# Registered drivers

A driver is registered under its own name, so whatever is registered, and in
whatever order, a driver that is found under a name has this name, and it is the
last one of them.  The names of a registry are those under which a driver is
found.

A run takes its driver from the registry by the name in the configuration, so a
run that succeeds reports this name.
-/

namespace TypedSql

open Catalog (Connection Driver DriverRegistry)
open Result (IsLast SetBy)

namespace Catalog
namespace DriverRegistry

/-- Register drivers, one after the other. -/
def registerAll
    (registry : DriverRegistry)
    (drivers : List Driver) :
    DriverRegistry :=
  drivers.foldl register registry

/-- The drivers that are registered from the beginning. -/
def builtinDrivers : List Driver :=
  [Dialect.mySql, .mariaDb, .tiDb].map MySql.driver

/-- The drivers of the MySQL family are registered like all others, only
earlier. -/
theorem registerAll_builtin (drivers : List Driver) :
    builtin.registerAll drivers =
      empty.registerAll (builtinDrivers ++ drivers) :=
  rfl

theorem get_empty (name : String) :
    empty.get name = .error (.unknownDriver name) := by
  rw [get, empty, Std.TreeMap.getElem?_emptyc]

/-- A registration decides about the name of its driver and no other. -/
theorem get_register
    (registry : DriverRegistry)
    (driver : Driver)
    (name : String) :
    (registry.register driver).get name =
      if driver.name = name then .ok driver else registry.get name := by
  simp only [get, register, Std.TreeMap.getElem?_insert,
    Std.compare_eq_iff_eq]
  by_cases named : driver.name = name
  · rw [if_pos named, if_pos named]
  · rw [if_neg named, if_neg named]

theorem get_eq_ok_iff
    {registry : DriverRegistry}
    {name : String}
    {driver : Driver} :
    registry.get name = .ok driver ↔
      registry.drivers[name]? = some driver := by
  rw [get]
  cases registry.drivers[name]? <;> simp

theorem setBy_register (name : String) :
    SetBy
      (fun registry : DriverRegistry => registry.get name)
      register
      (·.name = name)
      (fun driver found => .ok driver = found) where
  set := by
    intro registry driver found named
    rw [get_register, if_pos named]
  left := by
    intro registry driver otherName
    rw [get_register, if_neg otherName]

section History

variable {drivers : List Driver} {name : String}

/-- Of several drivers with one name, the last one is found. -/
theorem get_registerAll_eq_ok_iff {driver : Driver} :
    (empty.registerAll drivers).get name = .ok driver ↔
      IsLast (·.name = name) drivers driver := by
  refine (setBy_register name).foldl_eq_iff.trans ?_
  simp [get_empty]

theorem get_registerAll_eq_error_iff {error : Error} :
    (empty.registerAll drivers).get name = .error error ↔
      (∀ driver ∈ drivers, driver.name ≠ name) ∧
        error = .unknownDriver name := by
  refine (setBy_register name).foldl_eq_iff.trans ?_
  simp [get_empty, eq_comm]

theorem exists_get_registerAll_iff :
    (∃ driver, (empty.registerAll drivers).get name = .ok driver) ↔
      ∃ driver ∈ drivers, driver.name = name := by
  constructor
  · rintro ⟨driver, found⟩
    have last := get_registerAll_eq_ok_iff.1 found
    exact ⟨driver, last.mem, last.fits⟩
  · rintro ⟨driver, member, named⟩
    cases got : (empty.registerAll drivers).get name with
    | ok found => exact ⟨found, rfl⟩
    | error error =>
        obtain ⟨absent, -⟩ := get_registerAll_eq_error_iff.1 got
        exact absurd named (absent driver member)

end History

/-- A registry finds the drivers that were registered by their own names, of
several with one name the last. -/
structure FindsByName
    (registry : DriverRegistry)
    (registered : List Driver) :
    Prop where
  get_ok_iff
    (name : String)
    (driver : Driver) :
    registry.get name = .ok driver ↔ IsLast (·.name = name) registered driver
  get_error_iff
    (name : String)
    (error : Error) :
    registry.get name = .error error ↔
      (∀ driver ∈ registered, driver.name ≠ name) ∧
        error = .unknownDriver name
  accepts_iff
    (name : String) :
    (∃ driver, registry.get name = .ok driver) ↔
      ∃ driver ∈ registered, driver.name = name
  name_eq
    {name : String}
    {driver : Driver}
    (found : registry.get name = .ok driver) :
    driver.name = name
  mem_names_iff
    (name : String) :
    name ∈ registry.names ↔ ∃ driver, registry.get name = .ok driver
  ascending : registry.names.Pairwise (· < ·)

/-- Starting from none, a registry finds what was registered. -/
theorem findsByName_registerAll (drivers : List Driver) :
    (empty.registerAll drivers).FindsByName drivers where
  get_ok_iff _ _ := get_registerAll_eq_ok_iff
  get_error_iff _ _ := get_registerAll_eq_error_iff
  accepts_iff _ := exists_get_registerAll_iff
  name_eq found := (get_registerAll_eq_ok_iff.1 found).fits
  mem_names_iff name := by
    simp only [get_eq_ok_iff]
    exact Result.mem_keys_iff_exists
  ascending := Result.ascending_keys _

end DriverRegistry
end Catalog

namespace Generator

/-- A registry finds drivers by their names, and the runs of all generators
that use it report the name of the driver that they were configured with. -/
structure ReportsDriver
    (registry : DriverRegistry)
    (registered : List Driver) :
    Prop extends registry.FindsByName registered where
  driver_eq
    {config : Config}
    {directives : Directive.Registry}
    {generator : Generator}
    (made : make config registry directives = .ok generator)
    {σ : Type}
    {connection : Connection σ}
    {state : σ}
    {documents : List Document}
    {output : Output}
    (succeeded :
      ((generator.run documents).run.run connection state).1 = .ok output) :
    output.driver = config.driver

/-- The driver of a run is the one that is found under the configured name. -/
theorem reportsDriver_of_findsByName
    {registry : DriverRegistry}
    {registered : List Driver}
    (finds : registry.FindsByName registered) :
    ReportsDriver registry registered where
  toFindsByName := finds
  driver_eq := by
    intro config directives generator made σ connection state documents output
      succeeded
    obtain ⟨-, rfl⟩ := make_eq_ok_iff.1 made
    obtain ⟨_, ⟨checked, -, -⟩, rfl⟩ :=
      run_eq_ok_iff.1 (Prod.ext succeeded rfl)
    exact finds.name_eq (DriverRegistry.get_eq_ok_iff.2 checked.registered)

/-- Whatever drivers have been registered, on top of none or of the built-in
ones, each is found under its own name unless a later one has the same, and
every run that succeeds reports the name that it was configured with. -/
theorem reportsDriver_registerAll (drivers : List Driver) :
    ReportsDriver (DriverRegistry.empty.registerAll drivers) drivers ∧
      ReportsDriver (DriverRegistry.builtin.registerAll drivers)
        (DriverRegistry.builtinDrivers ++ drivers) := by
  constructor
  · exact reportsDriver_of_findsByName
      (DriverRegistry.findsByName_registerAll drivers)
  · rw [DriverRegistry.registerAll_builtin]
    exact reportsDriver_of_findsByName
      (DriverRegistry.findsByName_registerAll _)

end Generator
end TypedSql
