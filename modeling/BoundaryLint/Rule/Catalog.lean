import BoundaryLint.Rule.Crossing
import BoundaryLint.Rule.Delegation.Application
import BoundaryLint.Rule.Delegation.Transaction
import BoundaryLint.Rule.Delegation.UseCase
import BoundaryLint.Rule.Leakage.Clock
import BoundaryLint.Rule.Leakage.Ecto
import BoundaryLint.Rule.Leakage.Entity
import BoundaryLint.Rule.Leakage.Io
import BoundaryLint.Rule.Placement.Location
import BoundaryLint.Rule.Placement.Required
import BoundaryLint.Rule.PublicApi

/-!
All rules over single files, in the order in which they run.
-/

namespace BoundaryLint.Rule

def all : List Rule :=
  [noRepoInDomain, noSideEffectsInDomain, noInfrastructureInDomainEntities, noEctoInDomainLayer,
    noDateTimeNowInDomain, noIoInDomainServices, noEnvInRuntime, noBusinessLogicInSchemas,
    domainTestPurity, noDirectRepoInUseCases, noDirectFileOperationsInUseCases,
    noInfrastructureAliasInApplication, applicationLayerInfrastructureDependency, useCaseAdoption,
    noInlineQueriesInContexts, useCaseConsistentInjection, noBroadcastInTransaction,
    noCrossContextPolicyAccess, noCrossContextQueryAccess, noCrossContextSchemaAccess,
    noInfrastructureSchemaInWeb, servicesInCorrectLayer, infrastructureOrganization,
    useCasesInApplicationLayer, policiesInCorrectLayer, missingQueriesModule,
    architecturalLayersDefined, publicApiBoundary]

def parseErrorId : String := "parse_error"

def boundaryDepsId : String := "layer_boundary_deps"

def knownIds : List String := all.map (·.id) ++ [parseErrorId, boundaryDepsId]

def unknownId? (config : Config) : Option String :=
  (config.rules.map (·.1)).find? (!knownIds.contains ·)

/-- The rules that a configuration enables, in the order in which they run. -/
def configured (config : Config) : Except Config.Fault (List ActiveRule) :=
  match unknownId? config with
  | some id => .error ⟨id, .unknownRule⟩
  | none => do
    let rules ← all.mapM fun rule => rule.configure (config.rule rule.id)
    return rules.filterMap fun active => active

end BoundaryLint.Rule
