import ClassLink.Describe
import ClassLink.Linker
import ClassLink.Proofs.AccessorHalves
import ClassLink.Proofs.Arrivals
import ClassLink.Proofs.Bases
import ClassLink.Proofs.Commuting
import ClassLink.Proofs.DecimalTexts
import ClassLink.Proofs.DeclaredMembers
import ClassLink.Proofs.Directories
import ClassLink.Proofs.Filling
import ClassLink.Proofs.Findings
import ClassLink.Proofs.FixedTemplates
import ClassLink.Proofs.Flattening
import ClassLink.Proofs.Forecast
import ClassLink.Proofs.Fulfilling
import ClassLink.Proofs.HexTexts
import ClassLink.Proofs.Instances
import ClassLink.Proofs.IntegerTexts
import ClassLink.Proofs.Isolation
import ClassLink.Proofs.Keys
import ClassLink.Proofs.Lockstep
import ClassLink.Proofs.Loops
import ClassLink.Proofs.Numerals
import ClassLink.Proofs.Observation
import ClassLink.Proofs.Outcomes
import ClassLink.Proofs.Outlines
import ClassLink.Proofs.Radix
import ClassLink.Proofs.Redeclaration
import ClassLink.Proofs.Reapplying
import ClassLink.Proofs.Registration
import ClassLink.Proofs.Rejection
import ClassLink.Proofs.Requests
import ClassLink.Proofs.Resolution
import ClassLink.Proofs.Searching
import ClassLink.Proofs.Shadowing
import ClassLink.Proofs.Sharing
import ClassLink.Proofs.SingleConstruction
import ClassLink.Proofs.SlotCounts
import ClassLink.Proofs.SlotPlaces
import ClassLink.Proofs.Supplies
import ClassLink.Proofs.ValueClasses
import ClassLink.Proofs.ValueDomains
import ClassLink.Proofs.Writes
