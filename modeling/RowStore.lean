import RowStore.Main
import RowStore.Proofs.CommandLine.Grammar
import RowStore.Proofs.CommandLine.PageCount
import RowStore.Proofs.Pages.Growth
import RowStore.Proofs.Pages.LastWrite
import RowStore.Proofs.Program.Logging
import RowStore.Proofs.Program.Trace
import RowStore.Proofs.Record.Canonical
import RowStore.Proofs.Session.Failure
import RowStore.Proofs.Session.Framing
import RowStore.Proofs.Session.ListSession
import RowStore.Proofs.Session.Room
import RowStore.Proofs.Session.Sanitised
import RowStore.Proofs.Session.Sequence
import RowStore.Proofs.Statement.Display
import RowStore.Proofs.Statement.Dump
import RowStore.Proofs.Statement.Grammar
import RowStore.Proofs.Statement.Insertion
import RowStore.Proofs.Statement.Script
import RowStore.Proofs.Table.Addressing
import RowStore.Proofs.Table.BoundedList
import RowStore.Proofs.Table.Representation
import RowStore.Proofs.Table.Scanning
