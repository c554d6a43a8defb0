import PrizeDraw.Catalog.Json
import PrizeDraw.Database.Script.Json
import PrizeDraw.Database.Setup
import PrizeDraw.Desk
import PrizeDraw.Folder
import PrizeDraw.Generator.ChaCha
import PrizeDraw.Main
import PrizeDraw.Memory
import PrizeDraw.Proofs.Boxes
import PrizeDraw.Proofs.Commits
import PrizeDraw.Proofs.Prizes
import PrizeDraw.Proofs.Replies
import PrizeDraw.Proofs.Selectors
import PrizeDraw.Request.Json
import PrizeDraw.Sandbox.Simulation
import PrizeDraw.Proofs.Sequence
import PrizeDraw.Proofs.Cycle
import PrizeDraw.Proofs.Reading
import PrizeDraw.Proofs.Questions
import PrizeDraw.Proofs.BoxReport
import PrizeDraw.Proofs.Visits
import PrizeDraw.Proofs.Writes
import PrizeDraw.Proofs.Locks
import PrizeDraw.Proofs.Units
import PrizeDraw.Proofs.Reads
import PrizeDraw.Proofs.Apart
import PrizeDraw.Proofs.Trading
import PrizeDraw.Proofs.Collecting
import PrizeDraw.Proofs.Tallies
import PrizeDraw.Proofs.Simulation
import PrizeDraw.Proofs.Buffers
import PrizeDraw.Proofs.Shuffling
import PrizeDraw.Proofs.Weighting
import PrizeDraw.Proofs.Doubles
import PrizeDraw.Proofs.Drawable
import PrizeDraw.Proofs.Shares
import PrizeDraw.Proofs.Listings
import PrizeDraw.Proofs.Refusals
import PrizeDraw.Proofs.Handouts
import PrizeDraw.Proofs.Importing
import PrizeDraw.Proofs.Purchases
import PrizeDraw.Proofs.Stocking
import PrizeDraw.Proofs.PriceList
import PrizeDraw.Proofs.Preparing
import PrizeDraw.Proofs.Ranking
import PrizeDraw.Proofs.Cursor
import PrizeDraw.Proofs.Boundaries
import PrizeDraw.Proofs.Settings
import PrizeDraw.Proofs.RequestText
