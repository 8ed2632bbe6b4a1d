import ClassLowering.Session
import ClassLowering.Json.Printer
import ClassLowering.Proofs.Heap.Acyclic
import ClassLowering.Proofs.Integrity
import ClassLowering.Proofs.PrototypeLinks
import ClassLowering.Proofs.PrototypeLookup
import ClassLowering.Proofs.Construction.Detection
import ClassLowering.Proofs.Run.Steps
import ClassLowering.Proofs.HostIndependence
import ClassLowering.Proofs.ProxyProperties
import ClassLowering.Proofs.MemberDispatch
import ClassLowering.Proofs.SuperCallRefinement
import ClassLowering.Proofs.BooleanSubclasses
import ClassLowering.Proofs.Accessors.Build
import ClassLowering.Proofs.Composition.Basic
import ClassLowering.Proofs.Composition.Access
import ClassLowering.Proofs.Composition.Class
import ClassLowering.Proofs.Composition.Builtin
import ClassLowering.Proofs.Composition.Script
import ClassLowering.Proofs.Composition.Caches
import ClassLowering.Proofs.Composition.Depth
import ClassLowering.Proofs.RealmAnswers
import ClassLowering.Proofs.Accessors.Checking
import ClassLowering.Proofs.Heap.Routes
import ClassLowering.Proofs.ProxyLoops
import ClassLowering.Proofs.StoredAccessors
import ClassLowering.Proofs.Heap.Shortcut
import ClassLowering.Proofs.ProxyTransparency
import ClassLowering.Proofs.InternalFailures
import ClassLowering.Proofs.PropertyDefinition
import ClassLowering.Proofs.OrdinarySet
import ClassLowering.Proofs.ConstructorReturn
import ClassLowering.Proofs.LinkWriters
import ClassLowering.Proofs.FieldDefinition
import ClassLowering.Proofs.ClassLinking
import ClassLowering.Proofs.FailedLinks
import ClassLowering.Proofs.MemberInstallation
import ClassLowering.Proofs.MemberAlgebra
import ClassLowering.Proofs.DescriptorRoundTrip
import ClassLowering.Proofs.Composition.Anticipation
import ClassLowering.Proofs.SuperReads
import ClassLowering.Proofs.ForInEnumeration
import ClassLowering.Proofs.InstanceGuard
import ClassLowering.Proofs.UninitializedThis
import ClassLowering.Proofs.ReflectiveConstruction
import ClassLowering.Proofs.OwnKeyOrder
import ClassLowering.Proofs.ClassCreation
import ClassLowering.Proofs.PropertyMaps
import ClassLowering.Proofs.CallPaths
import ClassLowering.Proofs.NumericKeys
import ClassLowering.Proofs.ProfileLoading
import ClassLowering.Proofs.CaughtErrors
