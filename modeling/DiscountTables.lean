import DiscountTables.Digest
import DiscountTables.Wire.Record
import DiscountTables.Proofs.ColumnName
import DiscountTables.Proofs.Compilation.Agreement
import DiscountTables.Proofs.Compilation.LookupColumns
import DiscountTables.Proofs.Compilation.Oddities
import DiscountTables.Proofs.Decoding
import DiscountTables.Proofs.Duration
import DiscountTables.Proofs.LastWriter
import DiscountTables.Proofs.Reload.Effects
import DiscountTables.Proofs.Reload.Lookups
import DiscountTables.Proofs.Reload.Provenance
import DiscountTables.Proofs.Reload.Schedule
import DiscountTables.Proofs.Settings
import DiscountTables.Proofs.Store.Confinement
import DiscountTables.Proofs.Store.Newest
import DiscountTables.Proofs.Store.Parallel
import DiscountTables.Proofs.Store.Remembered
import DiscountTables.Proofs.Store.Settling
import DiscountTables.Proofs.Template.Place
